import GeoTrack.LiveDashboard

/-!
# The life of a zone, seen by a dashboard

For one user a zone is created once, updated and crossed while it lives, and
deleted at most once.  The frames that are on their way to a dashboard tell the
part of that life which the dashboard has not seen yet.
-/

namespace GeoTrack

open LabelledRuns

/-- The frames about one zone. -/
def LiveFrame.about (zoneId : Uuid) (frames : List LiveFrame) : List LiveFrame :=
  frames.filter fun frame => frame.zoneId = some zoneId

/-- How far the life of a zone has come, for its owner. -/
inductive ZoneLife where
  | unborn
  | alive
  | gone
deriving DecidableEq

namespace ZoneLife

/-- What a frame about a zone makes of its life. -/
def next : ZoneLife → LiveFrame → Option ZoneLife
  | .unborn, .zone (.created _) => some .alive
  | .alive, .zone (.updated _) => some .alive
  | .alive, .alert _ => some .alive
  | .alive, .zone (.deleted _) => some .gone
  | _, _ => none

/-- The frames about a zone tell how its life goes on. -/
def Leads (life : ZoneLife) (frames : List LiveFrame) (later : ZoneLife) : Prop :=
  Run next Anything life frames later

variable {life later : ZoneLife} {frame : LiveFrame} {frames more : List LiveFrame}

theorem leads_cons_iff :
    Leads life (frame :: frames) later ↔
      ∃ middle, next life frame = some middle ∧ Leads middle frames later := by
  rw [Leads, run_cons_iff]
  simp [Anything, Leads]

theorem Leads.refl : Leads life [] life := Run.nil

theorem Leads.append {middle : ZoneLife} (leads : Leads life frames middle)
    (goesOn : Leads middle more later) : Leads life (frames ++ more) later :=
  Run.append leads goesOn

theorem Leads.of_gone (leads : Leads .gone frames later) : frames = [] ∧ later = .gone := by
  cases frames with
  | nil => exact ⟨rfl, Run.eq_of_nil leads⟩
  | cons frame rest =>
      obtain ⟨middle, impossible, -⟩ := leads_cons_iff.mp leads
      cases impossible

/-- One frame about the zone itself. -/
theorem leads_change {change : ZoneFrame} (goesOn : next life (.zone change) = some later) :
    Leads life (LiveFrame.about change.zoneId [.zone change]) later := by
  rw [LiveFrame.about, List.filter_singleton]
  simpa [LiveFrame.zoneId] using leads_cons_iff.mpr ⟨later, goesOn, Leads.refl⟩

theorem Leads.ne_unborn (leads : Leads .alive frames later) : later ≠ .unborn := by
  apply Run.invariant leads
  · simp
  · intro before frame after _ _ goesOn
    unfold next at goesOn
    split at goesOn <;> cases goesOn <;> simp

end ZoneLife

namespace LiveSession

variable {pg : Postgis} {settings : StorageSettings} {userId zoneId : Uuid}
  {session after : LiveSession}

/-- How far the life of a zone has come on the server. -/
def Stands (userId : Uuid) (session : LiveSession) (zoneId : Uuid) : ZoneLife → Prop
  | .unborn => zoneTable session.db userId zoneId = none
  | .alive => zoneTable session.db userId zoneId ≠ none ∧ zoneId ∈ session.handedOut
  | .gone => zoneTable session.db userId zoneId = none ∧ zoneId ∈ session.handedOut

theorem commit_cases {op : Op} (committed : session.commit pg settings userId op = some after) :
    (∀ newId, op.newZoneId = some newId → newId ∉ session.handedOut) ∧
      after = { session with
        db := GeoTrack.step pg settings session.db op
        handedOut := session.handedOut ++ op.newZoneId.toList
        inbox := session.inbox ++ pushed pg settings userId session.db op } := by
  unfold commit at committed
  split at committed
  case isTrue unused =>
      exact ⟨fun newId isNew => unused newId isNew, (Option.some.inj committed).symm⟩
  case isFalse => cases committed

/-- The alerts of a batch are about zones of the user. -/
theorem zoneTable_of_told {batch : Batch} {db : Db} {alert : AlertOut}
    (listed : alert ∈ batch.told pg settings db userId) (about : alert.zone.id = some zoneId) :
    zoneTable db userId zoneId ≠ none := by
  obtain ⟨row, kept, rfl⟩ := List.mem_map.mp listed
  obtain ⟨raised, mine⟩ := List.mem_filter.mp kept
  obtain ⟨_, zone, stored, named, owner⟩ := Batch.owner_of_raised raised
  obtain rfl := Option.some.inj (named.symm.trans about)
  rw [zoneTable_eq_some stored (owner.symm.trans (of_decide_eq_true mine))]
  exact Option.some_ne_none _

theorem leads_told {batch : Batch} {db : Db} {life : ZoneLife}
    (alive : zoneTable db userId zoneId ≠ none → life = .alive) :
    ZoneLife.Leads life
      (LiveFrame.about zoneId ((batch.told pg settings db userId).map .alert)) life := by
  have allAlerts : ∀ alert ∈ batch.told pg settings db userId, alert.zone.id = some zoneId →
      life = .alive := fun alert listed about => alive (zoneTable_of_told listed about)
  generalize batch.told pg settings db userId = alerts at allAlerts
  induction alerts with
  | nil => exact .refl
  | cons alert rest ih =>
      have later := ih fun other listed => allAlerts other (List.mem_cons_of_mem _ listed)
      rw [LiveFrame.about, List.map_cons, List.filter_cons]
      split
      case isTrue about =>
          have isAlive := allAlerts alert (List.mem_cons_self ..) (of_decide_eq_true about)
          exact ZoneLife.leads_cons_iff.mpr ⟨life, by rw [isAlive]; rfl, later⟩
      case isFalse => exact later

theorem Stands.alive {life : ZoneLife} (stands : Stands userId session zoneId life)
    (shown : zoneTable session.db userId zoneId ≠ none) : life = .alive := by
  cases life with
  | unborn => exact absurd stands shown
  | alive => rfl
  | gone => exact absurd stands.1 shown

theorem Stands.unborn {life : ZoneLife} (stands : Stands userId session zoneId life)
    (unused : zoneId ∉ session.handedOut) : life = .unborn := by
  cases life with
  | unborn => rfl
  | alive => exact absurd stands.2 unused
  | gone => exact absurd stands.2 unused

theorem Stands.mono {life : ZoneLife} (stands : Stands userId session zoneId life)
    (same : zoneTable after.db userId zoneId = zoneTable session.db userId zoneId)
    (kept : zoneId ∈ session.handedOut → zoneId ∈ after.handedOut) :
    Stands userId after zoneId life := by
  cases life with
  | unborn => exact same.trans stands
  | alive => exact ⟨same ▸ stands.1, kept stands.2⟩
  | gone => exact ⟨same.trans stands.1, kept stands.2⟩

/-- The frame of an operation tells how the life of a zone goes on. -/
theorem Stands.announces {frame : Option ZoneFrame} {life : ZoneLife}
    (stands : Stands userId session zoneId life)
    (announces : Announces userId session.db after.db frame)
    (kept : ∀ id ∈ session.handedOut, id ∈ after.handedOut)
    (new : ∀ zone, frame = some (.created zone) →
      zone.id ∉ session.handedOut ∧ zone.id ∈ after.handedOut) :
    ∃ later, ZoneLife.Leads life (LiveFrame.about zoneId (frame.toList.map .zone)) later ∧
      Stands userId after zoneId later := by
  have elsewhere : ∀ change : ZoneFrame, change.zoneId ≠ zoneId →
      zoneTable after.db userId zoneId = zoneTable session.db userId zoneId →
      ∃ later, ZoneLife.Leads life (LiveFrame.about zoneId [.zone change]) later ∧
        Stands userId after zoneId later := by
    intro change other same
    refine ⟨life, ?_, stands.mono same (kept zoneId)⟩
    simpa [LiveFrame.about, LiveFrame.zoneId, other] using ZoneLife.Leads.refl
  cases announces with
  | nothing same => exact ⟨life, .refl, stands.mono (same zoneId) (kept zoneId)⟩
  | created zone fresh table =>
      by_cases isZone : zone.id = zoneId
      · subst isZone
        obtain rfl := stands.unborn (new zone rfl).1
        exact ⟨.alive, ZoneLife.leads_change rfl, by simp [table], (new zone rfl).2⟩
      · exact elsewhere (.created zone) isZone (by rw [table, if_neg (Ne.symm isZone)])
  | updated zone old known next table =>
      by_cases isZone : zone.id = zoneId
      · subst isZone
        obtain rfl := stands.alive (by simp [known])
        exact ⟨.alive, ZoneLife.leads_change rfl, by simp [table], kept zone.id stands.2⟩
      · exact elsewhere (.updated zone) isZone (by rw [table, if_neg (Ne.symm isZone)])
  | deleted gone old known table =>
      by_cases isZone : gone = zoneId
      · subst isZone
        obtain rfl := stands.alive (by simp [known])
        exact ⟨.gone, ZoneLife.leads_change rfl, by simp [table], kept gone stands.2⟩
      · exact elsewhere (.deleted gone) isZone (by rw [table, if_neg (Ne.symm isZone)])

/-- A committed operation moves the life of a zone as its frames tell. -/
theorem Stands.commit {op : Op} {life : ZoneLife} (stands : Stands userId session zoneId life)
    (committed : session.commit pg settings userId op = some after) :
    ∃ later, ZoneLife.Leads life
        (LiveFrame.about zoneId (pushed pg settings userId session.db op)) later ∧
      Stands userId after zoneId later := by
  obtain ⟨unused, rfl⟩ := commit_cases committed
  have announces := announces_step pg settings userId session.db op
  have kept : ∀ id ∈ session.handedOut, id ∈ session.handedOut ++ op.newZoneId.toList :=
    fun id => List.mem_append_left _
  cases op with
  | batch batch =>
      refine ⟨life, leads_told stands.alive, stands.mono ?_ (kept zoneId)⟩
      exact zoneTable_congr (by rw [step_batch]; rfl)
  | create | replace | patch | delete =>
      refine stands.announces announces kept ?_
      intro zone created
      have isNew := newZoneId_of_created userId created
      exact ⟨unused zone.id isNew, List.mem_append_right _ (by simp [isNew])⟩

/-- What one step does. -/
inductive Effect (pg : Postgis) (settings : StorageSettings) (userId : Uuid)
    (session : LiveSession) : LiveEvent → LiveSession → Prop where
  | commit {op : Op} {after : LiveSession}
      (committed : session.commit pg settings userId op = some after) :
      Effect pg settings userId session (.commit op) after
  | frame {frame : LiveFrame} {rest : List LiveFrame} (inbox : session.inbox = frame :: rest) :
      Effect pg settings userId session .frame
        { session with inbox := rest, dashboard := session.dashboard.handle frame }
  | remove {id : CallId} {zoneId : Uuid} (known : zoneId ∈ session.handedOut) :
      Effect pg settings userId session (.remove id zoneId)
        { session with removals := session.removals.set id (.sent zoneId) }
  | answer {id : CallId} {zoneId : Uuid} {after : LiveSession}
      (sent : session.removals.get? id = some (.sent zoneId))
      (committed : session.commit pg settings userId (.delete zoneId userId none) = some after) :
      Effect pg settings userId session (.answer id)
        { after with
          removals := session.removals.set id
            (.answered zoneId (ZoneEditorCall.respond userId 0 0 0 session.db (.remove zoneId))) }
  | lose {id : CallId} (zoneId : Uuid) :
      Effect pg settings userId session (.lose id)
        { session with removals := session.removals.set id (.answered zoneId (.error 0)) }
  | settle {id : CallId} {zoneId : Uuid} {response : ZoneResponse}
      (answered : session.removals.get? id = some (.answered zoneId response)) :
      Effect pg settings userId session (.settle id)
        { session with
          dashboard := { session.dashboard with
            zones := (ZoneEditor.handle session.dashboard.zones (.remove zoneId) response).1 }
          removals := session.removals.erase id }

theorem effect_of_step {event : LiveEvent}
    (stepTo : session.step pg settings userId event = some after) :
    Effect pg settings userId session event after := by
  unfold step at stepTo
  cases event with
  | commit op => exact .commit stepTo
  | frame =>
      dsimp only at stepTo
      split at stepTo
      case h_1 => cases stepTo
      case h_2 inbox =>
          obtain rfl := Option.some.inj stepTo
          exact .frame inbox
  | remove id zoneId =>
      obtain ⟨allowed, result⟩ := Option.ite_none_right_eq_some.mp stepTo
      obtain rfl := Option.some.inj result
      exact .remove allowed.2
  | answer id =>
      dsimp only at stepTo
      split at stepTo
      case h_1 sent =>
          obtain ⟨middle, committed, rfl⟩ := Option.map_eq_some_iff.mp stepTo
          exact .answer sent committed
      case h_2 => cases stepTo
  | lose id =>
      dsimp only at stepTo
      split at stepTo
      case h_1 | h_2 =>
          obtain rfl := Option.some.inj stepTo
          exact .lose _
      case h_3 => cases stepTo
  | settle id =>
      dsimp only at stepTo
      split at stepTo
      case h_1 answered =>
          obtain rfl := Option.some.inj stepTo
          exact .settle answered
      case h_2 => cases stepTo

/-- The frames on their way take the life of a zone from what the dashboard has
seen of it to what it is now.  The map shows what was seen, except that the answer
to a removal may take a zone off early. -/
structure Lane (userId : Uuid) (session : LiveSession) (zoneId : Uuid) (seen now : ZoneLife) :
    Prop where
  pending : seen.Leads (LiveFrame.about zoneId session.inbox) now
  stands : Stands userId session zoneId now
  shown : seen = .alive → zoneId ∈ session.dashboard.zones ∨ now = .gone
  hidden : seen ≠ .alive → zoneId ∉ session.dashboard.zones
  unlinked : seen = .unborn → ¬ session.dashboard.Linked zoneId

theorem Lane.commit {op : Op} {seen now : ZoneLife} (lane : Lane userId session zoneId seen now)
    (committed : session.commit pg settings userId op = some after) :
    ∃ later, Lane userId after zoneId seen later := by
  obtain ⟨later, leads, stands⟩ := lane.stands.commit committed
  obtain ⟨-, rfl⟩ := commit_cases committed
  refine ⟨later, ?_, stands, ?_, lane.hidden, lane.unlinked⟩
  · rw [LiveFrame.about, List.filter_append]
    exact lane.pending.append leads
  · intro alive
    rcases lane.shown alive with onMap | rfl
    · exact Or.inl onMap
    · exact Or.inr leads.of_gone.2

/-- What the head of the inbox is, if it is about the zone. -/
theorem Lane.head {seen now : ZoneLife} {frame : LiveFrame} {rest : List LiveFrame}
    (lane : Lane userId session zoneId seen now) (inbox : session.inbox = frame :: rest)
    (about : frame.zoneId = some zoneId) :
    ∃ later, seen.next frame = some later ∧ later.Leads (LiveFrame.about zoneId rest) now := by
  have pending := lane.pending
  rw [inbox, LiveFrame.about, List.filter_cons_of_pos (by simp [about])] at pending
  exact ZoneLife.leads_cons_iff.mp pending

theorem Lane.frame {seen now : ZoneLife} {frame : LiveFrame} {rest : List LiveFrame}
    (lane : Lane userId session zoneId seen now) (lit : session.dashboard.Lit)
    (inbox : session.inbox = frame :: rest) :
    ∃ later, Lane userId
      { session with inbox := rest, dashboard := session.dashboard.handle frame } zoneId later
      now := by
  by_cases about : frame.zoneId = some zoneId
  · obtain ⟨later, goesOn, leads⟩ := lane.head inbox about
    unfold ZoneLife.next at goesOn
    split at goesOn
    case h_1 zone | h_2 zone =>
        -- the zone itself comes with the frame
        obtain rfl := Option.some.inj goesOn
        obtain rfl : zone.id = zoneId := Option.some.inj about
        refine ⟨.alive, leads, lane.stands, fun _ => Or.inl ?_, by simp, by simp⟩
        rw [Dashboard.handle, Dashboard.mem_onZone]
        simp [ZoneFrame.zoneId]
    case h_3 alert =>
        obtain rfl := Option.some.inj goesOn
        refine ⟨.alive, leads, lane.stands, ?_, by simp, by simp⟩
        rw [Dashboard.handle, Dashboard.zones_onAlert]
        exact lane.shown
    case h_4 gone =>
        obtain rfl := Option.some.inj goesOn
        obtain rfl : gone = zoneId := Option.some.inj about
        have erased : gone ∉ (session.dashboard.handle (.zone (.deleted gone))).zones := by
          rw [Dashboard.handle, Dashboard.mem_onZone]
          simp [ZoneFrame.zoneId]
        exact ⟨.gone, leads, lane.stands, by simp, fun _ => erased, by simp⟩
    case h_5 => cases goesOn
  · refine ⟨seen, ?_, lane.stands, ?_, ?_, ?_⟩
    · have pending := lane.pending
      rwa [inbox, LiveFrame.about, List.filter_cons_of_neg (by simp [about])] at pending
    · rw [Dashboard.mem_handle_of_ne about]
      exact lane.shown
    · rw [Dashboard.mem_handle_of_ne about]
      exact lane.hidden
    · rw [lit.linked_handle_of_ne about]
      exact lane.unlinked

/-- The answer to a removal leaves the map or takes the zone off it. -/
theorem handle_remove (zones : Dict Uuid GeozoneOut) (zoneId : Uuid) (response : ZoneResponse) :
    (ZoneEditor.handle zones (.remove zoneId) response).1 = zones ∨
      (response = .noContent ∨ response = .error 404) ∧
        (ZoneEditor.handle zones (.remove zoneId) response).1 = zones.erase zoneId := by
  cases response with
  | page items | zone item => exact Or.inl rfl
  | noContent => exact Or.inr ⟨Or.inl rfl, rfl⟩
  | error status =>
      simp only [ZoneEditor.handle, ZoneEditor.recover]
      split
      case isTrue isMissing => exact Or.inr ⟨Or.inr (congrArg _ isMissing), rfl⟩
      case isFalse =>
          left
          split <;> rfl

/-- The zone is taken off the map after its life has ended. -/
theorem Lane.settle {seen now : ZoneLife} {zones : Dict Uuid GeozoneOut}
    {removals : Dict CallId Removal}
    (lane : Lane userId session zoneId seen now)
    (same : (zoneId ∈ zones ↔ zoneId ∈ session.dashboard.zones) ∨
      Stands userId session zoneId .gone ∧ zoneId ∉ zones) :
    Lane userId
      { session with dashboard := { session.dashboard with zones := zones }, removals := removals }
      zoneId seen now := by
  refine ⟨lane.pending, lane.stands, ?_, ?_, lane.unlinked⟩
  · rintro rfl
    rcases same with unmoved | ⟨isGone, -⟩
    · exact (lane.shown rfl).imp_left unmoved.mpr
    · have ends : now = .gone := by
        cases now with
        | unborn => exact absurd rfl lane.pending.ne_unborn
        | alive => exact absurd isGone.1 lane.stands.1
        | gone => rfl
      exact Or.inr ends
  · intro notAlive
    rcases same with unmoved | ⟨-, off⟩
    · exact fun onMap => lane.hidden notAlive (unmoved.mp onMap)
    · exact off

/-- What holds in every state: each zone has its lane, and a removal that the server
answered is about a zone whose life is over. -/
structure Followed (userId : Uuid) (session : LiveSession) : Prop where
  lit : session.dashboard.Lit
  lanes : ∀ zoneId, ∃ seen now, Lane userId session zoneId seen now
  sent : ∀ id zoneId, session.removals.get? id = some (.sent zoneId) →
    zoneId ∈ session.handedOut
  answered : ∀ id zoneId response, session.removals.get? id = some (.answered zoneId response) →
    response = .noContent ∨ response = .error 404 → Stands userId session zoneId .gone

/-- A removal names no version, so after it the zone is not in the table. -/
theorem zoneTable_delete (pg : Postgis) (settings : StorageSettings) (db : Db) :
    zoneTable (GeoTrack.step pg settings db (.delete zoneId userId none)) userId zoneId = none := by
  have unguarded :
      Geozones.writable db zoneId userId none = Geozones.getForUser db zoneId userId := by
    rw [Geozones.writable]
    cases Geozones.getForUser db zoneId userId <;> rfl
  rw [GeoTrack.step, Geozones.delete, unguarded]
  cases found : Geozones.getForUser db zoneId userId with
  | some zone =>
      dsimp only [committed]
      rw [zoneTable_dropZone, if_pos rfl]
  | none =>
      simp only [Geozones.explainMissingRow, found, Except.map, committed]
      rw [zoneTable, found, Option.map_none]

theorem Stands.gone_commit {op : Op} (stands : Stands userId session zoneId .gone)
    (committed : session.commit pg settings userId op = some after) :
    LiveFrame.about zoneId (pushed pg settings userId session.db op) = [] ∧
      Stands userId after zoneId .gone := by
  obtain ⟨later, leads, standsLater⟩ := stands.commit committed
  obtain ⟨nothing, rfl⟩ := leads.of_gone
  exact ⟨nothing, standsLater⟩

theorem Followed.commit {op : Op} (followed : Followed userId session)
    (committed : session.commit pg settings userId op = some after) : Followed userId after := by
  have shape := (commit_cases committed).2
  constructor
  · rw [shape]
    exact followed.lit
  · intro zoneId
    obtain ⟨seen, now, lane⟩ := followed.lanes zoneId
    obtain ⟨later, longer⟩ := lane.commit committed
    exact ⟨seen, later, longer⟩
  · rw [shape]
    intro id zoneId isSent
    exact List.mem_append_left _ (followed.sent id zoneId isSent)
  · intro id zoneId response isAnswered ends
    rw [shape] at isAnswered
    exact ((followed.answered id zoneId response isAnswered ends).gone_commit committed).2

/-- A removal moves on to its next step. -/
theorem Followed.setRemoval {id : CallId} {removal : Removal} (followed : Followed userId session)
    (sent : ∀ zoneId, removal = .sent zoneId → zoneId ∈ session.handedOut)
    (answered : ∀ zoneId response, removal = .answered zoneId response →
      response = .noContent ∨ response = .error 404 → Stands userId session zoneId .gone) :
    Followed userId { session with removals := session.removals.set id removal } := by
  refine ⟨followed.lit, ?_, ?_, ?_⟩
  · intro zoneId
    obtain ⟨seen, now, lane⟩ := followed.lanes zoneId
    exact ⟨seen, now, lane.pending, lane.stands, lane.shown, lane.hidden, lane.unlinked⟩
  · intro other zoneId isSent
    rcases Dict.get?_set_cases isSent with ⟨-, isNew⟩ | ⟨-, earlier⟩
    · exact sent zoneId isNew.symm
    · exact followed.sent other zoneId earlier
  · intro other zoneId response isAnswered
    rcases Dict.get?_set_cases isAnswered with ⟨-, isNew⟩ | ⟨-, earlier⟩
    · exact answered zoneId response isNew.symm
    · exact followed.answered other zoneId response earlier

theorem Followed.frame {frame : LiveFrame} {rest : List LiveFrame}
    (followed : Followed userId session) (inbox : session.inbox = frame :: rest) :
    Followed userId
      { session with inbox := rest, dashboard := session.dashboard.handle frame } := by
  refine ⟨followed.lit.handle frame, ?_, followed.sent, followed.answered⟩
  intro zoneId
  obtain ⟨seen, now, lane⟩ := followed.lanes zoneId
  obtain ⟨later, moved⟩ := lane.frame followed.lit inbox
  exact ⟨later, now, moved⟩

theorem Followed.step {event : LiveEvent} (followed : Followed userId session)
    (effect : Effect pg settings userId session event after) : Followed userId after := by
  cases effect with
  | commit committed => exact followed.commit committed
  | frame inbox => exact followed.frame inbox
  | remove known =>
      apply followed.setRemoval
      · rintro zoneId ⟨⟩
        exact known
      · rintro zoneId response ⟨⟩
  | @answer id zoneId middle isSent committed =>
      have reached := followed.commit committed
      have shape := (commit_cases committed).2
      have sameRemovals : session.removals = middle.removals := by rw [shape]
      rw [sameRemovals]
      apply reached.setRemoval
      · rintro zoneId ⟨⟩
      · rintro _ _ ⟨⟩ -
        constructor
        · rw [shape]
          exact zoneTable_delete pg settings session.db
        · rw [shape]
          exact List.mem_append_left _ (followed.sent id zoneId isSent)
  | lose zoneId =>
      apply followed.setRemoval
      · rintro zoneId ⟨⟩
      · rintro _ _ ⟨⟩ (impossible | impossible)
        · cases impossible
        · cases impossible
  | @settle id zoneId response isAnswered =>
      refine ⟨⟨followed.lit.tidy, followed.lit.same⟩, ?_, ?_, ?_⟩
      · intro other
        obtain ⟨seen, now, lane⟩ := followed.lanes other
        refine ⟨seen, now, lane.settle ?_⟩
        rcases handle_remove session.dashboard.zones zoneId response with same | ⟨ends, erased⟩
        · rw [same]
          exact Or.inl Iff.rfl
        · rw [erased, Dict.mem_erase]
          by_cases isZone : other = zoneId
          · subst isZone
            exact Or.inr ⟨followed.answered id other response isAnswered ends, by simp⟩
          · exact Or.inl (by simp [isZone])
      · intro other zoneId isSent
        exact followed.sent other zoneId (Dict.of_get?_erase isSent).2
      · intro other zoneId response isAnswered
        exact followed.answered other zoneId response (Dict.of_get?_erase isAnswered).2

end LiveSession

end GeoTrack
