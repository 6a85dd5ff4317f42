import GeoTrack.PositionGateway

/-!
# No visible device is lost

A delta lists the devices that left the window next to the items of those that
moved in it, and the dashboard removes after it has merged.  A device that
leaves the window and comes back into another of its cells within one tick is
on both lists and disappears.  Short of that, whatever is in the window of a
client at rest is on its dashboard.
-/

namespace GeoTrack

open LabelledRuns

namespace Gateway

/-- No client that will be sent the delta of a tick has a device in its window
that is on record as having left it. -/
abbrev NobodyReturned (gateway : Gateway) : Prop :=
  ∀ session ∈ gateway.sessions, ∀ viewport ∈ session.connection.viewport,
    session.connection.closing = false → session.connection.needsSnapshot = false →
    session.connection.pendingDelta = none →
    ∀ left ∈ gateway.hub.pending.departed.entries, covers viewport left.1 = true →
    ∀ move ∈ left.2.entries, (∀ target ∈ move.2, covers viewport target = false) →
    ∀ entry ∈ gateway.hub.latest.get? move.1, covers viewport entry.cell = false

def KeepsVisible (gateway : Gateway) : GatewayEvent → Prop
  | .tick _ => gateway.NobodyReturned
  | _ => True

instance (gateway : Gateway) : (event : GatewayEvent) → Decidable (gateway.KeepsVisible event)
  | .tick _ => inferInstanceAs (Decidable gateway.NobodyReturned)
  | .apply _ => isTrue trivial
  | .sweep _ => isTrue trivial
  | .connect => isTrue trivial
  | .client _ _ => isTrue trivial

theorem KeepsVisible.not_leaving {gateway : Gateway} {tMs : ℤ}
    (keeps : gateway.KeepsVisible (.tick tMs)) {session : Session}
    (isMember : session ∈ gateway.sessions) {viewport : List CellRect}
    (watching : session.Watching viewport) (noDelta : session.connection.pendingDelta = none)
    {deviceId : DeviceId} (visible : (gateway.hub.view deviceId).Visible viewport) :
    ¬ (gateway.hub.view deviceId).Leaving viewport := by
  rintro ⟨cell, movedTo, covered, departed, outside⟩
  obtain ⟨moves, listed, found⟩ := Option.bind_eq_some_iff.mp departed
  obtain ⟨entry, known, inWindow⟩ := visible
  have uncovered := keeps session isMember viewport watching.1 watching.2.1 watching.2.2 noDelta
    (cell, moves) (Dict.mem_entries_iff.mpr listed) covered
    (deviceId, movedTo) (Dict.mem_entries_iff.mpr found) outside entry known
  rw [inWindow] at uncovered
  cases uncovered

end Gateway

namespace Session

variable {session after : Session} {hub : PositionHub}

/-- Every device in the window will be on the dashboard, or is in the next
delta. -/
def Tracks (session : Session) (hub : PositionHub) : Prop :=
  ∀ viewport, session.Watching viewport → ∀ deviceId, (hub.view deviceId).Visible viewport →
    (session.settled.get deviceId).isSome = true ∨ (hub.view deviceId).Dirty

theorem Tracks.place (tracks : session.Tracks hub) (item : PositionItem) :
    session.Tracks (hub.place item) := by
  intro viewport watching deviceId
  rw [PositionHub.view_place]
  split
  case isTrue =>
      intro _
      exact Or.inr ⟨_, rfl, Or.inl rfl⟩
  case isFalse => exact tracks viewport watching deviceId

theorem Tracks.forget (tracks : session.Tracks hub) (gone : DeviceId) :
    session.Tracks (hub.forget gone) := by
  intro viewport watching deviceId visible
  rw [PositionHub.view_forget] at visible ⊢
  split at visible
  case isTrue =>
      obtain ⟨entry, known, -⟩ := visible
      unfold DeviceView.forget at known
      split at known
      case h_1 => cases known
      case h_2 unknown =>
          rw [unknown] at known
          cases known
  case isFalse different =>
      rw [if_neg different]
      exact tracks viewport watching deviceId visible

theorem Tracks.offer {delta : TickDelta} (tracks : session.Tracks hub) (sound : hub.Sound)
    (changes : hub.Delta delta)
    (keeps : ∀ viewport, session.Watching viewport → session.connection.pendingDelta = none →
      ∀ deviceId, (hub.view deviceId).Visible viewport → ¬ (hub.view deviceId).Leaving viewport) :
    (session.offer delta).Tracks hub.discardPending := by
  intro viewport watchingAfter deviceId visibleAfter
  obtain ⟨watching, settled, undisturbed⟩ := offer_settled watchingAfter
  have visible : (hub.view deviceId).Visible viewport := by
    rw [PositionHub.view_discardPending] at visibleAfter
    exact visibleAfter
  have stays : deviceId ∉ ClientConnection.removedFrom delta viewport := by
    rcases undisturbed with noDelta | noneRemoved
    · rw [changes.mem_removedFrom]
      exact keeps viewport watching noDelta deviceId visible
    · rw [noneRemoved]
      exact List.not_mem_nil
  left
  rw [settled, DeviceStore.get_onDelta, if_neg stays]
  rw [DeviceStore.isSome_get_foldl_merge_iff]
  rcases tracks viewport watching deviceId visible with shown | dirty
  · exact Or.inr shown
  · obtain ⟨entry, known, changed⟩ := dirty
    obtain ⟨_, knownToo, covered⟩ := visible
    obtain rfl := Option.some.inj (known.symm.trans knownToo)
    obtain ⟨named, -⟩ := (sound.devices deviceId).located entry known
    refine Or.inl (List.mem_map.mpr ⟨entry.item, ?_, named⟩)
    rw [changes.mem_visibleChunks sound, named]
    exact ⟨entry, known, rfl, covered, changed⟩

theorem Tracks.act (tracks : session.Tracks hub) (sound : hub.Sound)
    (acted : session.Acted hub after) : after.Tracks hub := by
  intro viewport watchingAfter deviceId visible
  rcases acted.shown viewport watchingAfter with ⟨watching, settled⟩ | snapshot
  · rw [settled]
    exact tracks viewport watching deviceId visible
  · obtain ⟨nowMs, chunks, taken, settled⟩ := snapshot
    obtain ⟨entry, known, covered⟩ := visible
    obtain ⟨named, -⟩ := (sound.devices deviceId).located entry known
    have listed : deviceId ∈ chunks.flatten.map PositionItem.deviceId := by
      refine List.mem_map.mpr ⟨entry.item, ?_, named⟩
      rw [taken, named]
      exact ⟨entry, known, rfl, covered⟩
    left
    rw [settled, DeviceStore.get_onSnapshot, if_pos listed, DeviceStore.isSome_get_foldl_merge_iff]
    exact Or.inl listed

end Session

namespace Gateway

variable {gateway after : Gateway}

/-- Every session tracks the hub. -/
def Tracking (gateway : Gateway) : Prop :=
  gateway.Orderly ∧ ∀ session ∈ gateway.sessions, session.Tracks gateway.hub

theorem tracks_step {event : GatewayEvent} (orderly : gateway.Orderly)
    (tracks : ∀ session ∈ gateway.sessions, session.Tracks gateway.hub)
    (keeps : gateway.KeepsVisible event) (stepTo : gateway.step event = some after) :
    ∀ session ∈ after.sessions, session.Tracks after.hub := by
  cases event with
  | apply items =>
      obtain rfl := Option.some.inj stepTo
      intro session isMember
      exact @PositionHub.apply_induction gateway.hub (fun hub _ => session.Tracks hub) items []
        (tracks session isMember) (fun _ _ item _ before => before.place item)
        (fun _ _ _ before => before)
  | sweep now =>
      obtain rfl := Option.some.inj stepTo
      intro session isMember
      exact PositionHub.sweep_induction now (tracks session isMember)
        fun _ deviceId before => before.forget deviceId
  | tick tMs =>
      obtain rfl := Option.some.inj stepTo
      obtain ⟨delta, changes, ticked⟩ := gateway.tick_eq orderly.1 tMs
      rw [ticked]
      refine List.forall_mem_map.mpr fun session isMember => ?_
      refine (tracks session isMember).offer orderly.1 changes ?_
      intro viewport watching noDelta deviceId visible
      exact keeps.not_leaving isMember watching noDelta visible
  | connect =>
      obtain rfl := Option.some.inj stepTo
      apply forall_connected tracks
      intro viewport watching
      cases watching.1
  | client index action =>
      obtain ⟨session, _, _, isMember, -, acted, hubAfter, others⟩ := client_cases orderly stepTo
      rw [hubAfter]
      exact others _ tracks ((tracks session isMember).act orderly.1 acted)

/-- In every run in which no tick removes a device that is back in the window,
a client at rest shows every device in its window. -/
theorem visible_devices_shown (grid : Grid) (staleAfterS controlMax : ℕ)
    (events : List GatewayEvent) (gateway : Gateway)
    (run : Run step KeepsVisible (fresh grid staleAfterS controlMax) events gateway) :
    ∀ session ∈ gateway.sessions, ∀ viewport, gateway.Quiescent session viewport →
      ∀ deviceId entry, gateway.hub.latest.get? deviceId = some entry →
        covers viewport entry.cell = true → (session.store.get deviceId).isSome = true := by
  have tracking : gateway.Tracking := by
    apply run.invariant
    · exact ⟨orderly_fresh grid staleAfterS controlMax, by simp [fresh]⟩
    · rintro before event next ⟨orderly, tracks⟩ keeps stepTo
      exact ⟨orderly_step orderly stepTo, tracks_step orderly tracks keeps stepTo⟩
  intro session isMember viewport quiescent deviceId entry known covered
  have shown := tracking.2 session isMember viewport quiescent.watching deviceId
    ⟨entry, known, covered⟩
  rw [quiescent.settled_eq] at shown
  apply shown.resolve_right
  rintro ⟨other, -, changed⟩
  exact quiescent.not_changed deviceId other.cell changed

/-- The condition is exact: a tick that breaks it takes a device in the window
off some dashboard. -/
theorem returned_device_removed (orderly : gateway.Orderly) (tMs : ℤ)
    (returned : ¬ gateway.NobodyReturned) :
    ∃ session ∈ (gateway.tick tMs).sessions, ∃ viewport, session.Watching viewport ∧
      ∃ deviceId, ((gateway.tick tMs).hub.view deviceId).Visible viewport ∧
        session.settled.get deviceId = none := by
  simp only [NobodyReturned, not_forall] at returned
  obtain ⟨session, isMember, viewport, window, isOpen, noSnapshot, noDelta, ⟨cell, moves⟩, listed,
    covered, ⟨deviceId, movedTo⟩, departed, outside, entry, known, inWindow⟩ := returned
  rw [Bool.not_eq_false] at inWindow
  obtain ⟨delta, changes, ticked⟩ := gateway.tick_eq orderly.1 tMs
  have watching : (session.offer delta).Watching viewport :=
    Session.offer_watching ⟨window, isOpen, noSnapshot⟩ noDelta delta
  have leaving : (gateway.hub.view deviceId).Leaving viewport := by
    refine ⟨cell, movedTo, covered, ?_, outside⟩
    exact Option.bind_eq_some_iff.mpr
      ⟨moves, Dict.mem_entries_iff.mp listed, Dict.mem_entries_iff.mp departed⟩
  rw [ticked]
  refine ⟨session.offer delta, List.mem_map_of_mem isMember, viewport, watching, deviceId,
    ⟨entry, known, inWindow⟩, ?_⟩
  rw [(Session.offer_settled watching).2.1, DeviceStore.get_onDelta,
    if_pos (changes.mem_removedFrom.mpr leaving)]

/-- A client opens the window, and a device appears in it. -/
def arrival : List GatewayEvent :=
  [.connect, .client 0 (.setViewport .harbour), .client 0 (.send 0), .client 0 .deliver,
    .apply [⟨"ferry", 1 / 100, 1 / 100, 1⟩], .tick 1, .client 0 (.send 1), .client 0 .deliver]

/-- The next two reports of it reach the hub in the same tick. -/
def departure (first second : PositionItem) : List GatewayEvent :=
  [.apply [first, second], .tick 2, .client 0 (.send 2), .client 0 .deliver]

/-- The ferry moves on inside the window. -/
def crossing : List GatewayEvent :=
  arrival ++ departure ⟨"ferry", 6 / 100, 1 / 100, 2⟩ ⟨"ferry", 6 / 100, 6 / 100, 3⟩

theorem visible_devices_shown_crossing :
    ∃ gateway, Run step KeepsVisible (fresh .standard 300 1000) crossing gateway ∧
      ∃ session ∈ gateway.sessions,
        gateway.Quiescent session (Grid.standard.rectsFor .harbour) ∧
          (session.store.get "ferry").isSome = true := by
  obtain ⟨gateway, executed, session, isMember, quiescent, entry, known, covered⟩ :
      ∃ gateway, exec step KeepsVisible (fresh .standard 300 1000) crossing = some gateway ∧
        ∃ session ∈ gateway.sessions,
          gateway.Quiescent session (Grid.standard.rectsFor .harbour) ∧
            ∃ entry ∈ gateway.hub.latest.get? "ferry",
              covers (Grid.standard.rectsFor .harbour) entry.cell = true := by
    apply exists_of_exec
    decide +kernel
  have reached := run_of_exec executed
  exact ⟨gateway, reached, session, isMember, quiescent,
    visible_devices_shown .standard 300 1000 crossing gateway reached session isMember _ quiescent
      "ferry" entry known covered⟩

/-- The ferry leaves the window and returns into another cell of it. -/
def roundTripAbroad : List GatewayEvent :=
  arrival ++ departure ⟨"ferry", 1, 1, 2⟩ ⟨"ferry", 6 / 100, 6 / 100, 3⟩

/-- All within one tick, and so it is taken off the dashboard. -/
theorem returning_device_lost :
    ∃ gateway, Run step Anything (fresh .standard 300 1000) roundTripAbroad gateway ∧
      ∃ session ∈ gateway.sessions,
        gateway.Quiescent session (Grid.standard.rectsFor .harbour) ∧
          (∃ entry ∈ gateway.hub.latest.get? "ferry",
            covers (Grid.standard.rectsFor .harbour) entry.cell = true) ∧
          session.store.get "ferry" = none := by
  obtain ⟨gateway, executed, lost⟩ :
      ∃ gateway, exec step Anything (fresh .standard 300 1000) roundTripAbroad = some gateway ∧
        ∃ session ∈ gateway.sessions,
          gateway.Quiescent session (Grid.standard.rectsFor .harbour) ∧
            (∃ entry ∈ gateway.hub.latest.get? "ferry",
              covers (Grid.standard.rectsFor .harbour) entry.cell = true) ∧
            session.store.get "ferry" = none := by
    apply exists_of_exec
    decide +kernel
  exact ⟨gateway, run_of_exec executed, lost⟩

end Gateway

end GeoTrack
