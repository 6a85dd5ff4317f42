import GeoTrack.ConnectionRegistry

/-!
# Serving one socket

A socket is served in a row of awaits: admission to the registry, the session
directory, the hello, the two pumps, and a cleanup that takes the connection out
of the registry before it waits for anything else.  An exception or a
cancellation may end any of these waits.

The cleanup guards everything after the admission, but not the admission itself:
the connection is in the registry from its first step on, while the call still
waits for the lock of the user or for the subscription.
-/

namespace GeoTrack

open LabelledRuns

/-- Where a call of `serve` is suspended. -/
inductive ServeStage where
  /-- In `ConnectionRegistry.add`. -/
  | admitting
  /-- Closing a socket that was refused. -/
  | refusing
  | joining
  | greeting
  | pumping
  /-- In `ConnectionRegistry.remove`, the first wait of the cleanup. -/
  | leaving
  | closing
  | departing
  | finished
deriving DecidableEq

structure ServeCall where
  connection : ConnectionRef
  stage : ServeStage
deriving DecidableEq

structure ServingGateway where
  registry : ConnectionRegistry
  serves : Dict ℕ ServeCall

inductive ServeEvent where
  /-- A socket of a user is accepted. -/
  | serve (task : ℕ) (userId : Uuid)
  /-- The registry call of a task gets its lock, or its hook returns. -/
  | acquire (task : ℕ)
  | hookDone (task : ℕ)
  /-- Another wait ends; the directory and the hello also say whether to go on. -/
  | proceed (task : ℕ) (ok : Bool)
  | raise (task : ℕ)
deriving DecidableEq

namespace ServingGateway

def fresh : ServingGateway := ⟨ConnectionRegistry.fresh, ∅⟩

def goto (gateway : ServingGateway) (task : ℕ) (serve : ServeCall) (stage : ServeStage) :
    ServingGateway :=
  { gateway with serves := gateway.serves.set task { serve with stage := stage } }

/-- The `finally` block up to its first wait. -/
def cleanUp (gateway : ServingGateway) (task : ℕ) (serve : ServeCall) : Option ServingGateway :=
  (gateway.registry.step (.remove task serve.connection)).map fun registry =>
    goto { gateway with registry := registry } task serve
      (if task ∈ registry.table.calls then .leaving else .closing)

/-- The registry call of the task moves; when it returns, `serve` goes on. -/
def callMoves (gateway : ServingGateway) (task : ℕ) (serve : ServeCall) (event : RegistryEvent) :
    Option ServingGateway :=
  if serve.stage = .admitting ∨ serve.stage = .leaving then
    (gateway.registry.step event).map fun registry =>
      if task ∈ registry.table.calls then { gateway with registry := registry }
      else goto { gateway with registry := registry } task serve
        (if serve.stage = .admitting then .joining else .closing)
  else
    none

def step (limit : ℕ) (gateway : ServingGateway) : ServeEvent → Option ServingGateway
  | .serve task userId =>
      if task ∈ gateway.serves then none
      else
        (gateway.registry.step (.add task ⟨task, userId⟩ limit)).map fun registry =>
          goto { gateway with registry := registry } task ⟨⟨task, userId⟩, .admitting⟩
            (if task ∈ registry.table.calls then .admitting else .refusing)
  | .acquire task =>
      (gateway.serves.get? task).bind fun serve => gateway.callMoves task serve (.acquire task)
  | .hookDone task =>
      (gateway.serves.get? task).bind fun serve => gateway.callMoves task serve (.hookDone task)
  | .proceed task ok =>
      (gateway.serves.get? task).bind fun serve =>
        match serve.stage with
        | .refusing => some (gateway.goto task serve .finished)
        | .joining =>
            if ok then some (gateway.goto task serve .greeting) else gateway.cleanUp task serve
        | .greeting =>
            if ok then some (gateway.goto task serve .pumping) else gateway.cleanUp task serve
        | .pumping => gateway.cleanUp task serve
        | .closing => some (gateway.goto task serve .departing)
        | .departing => some (gateway.goto task serve .finished)
        | .admitting | .leaving | .finished => none
  | .raise task =>
      (gateway.serves.get? task).bind fun serve =>
        match serve.stage with
        | .admitting | .leaving =>
            (gateway.registry.step (.raise task)).map fun registry =>
              goto { gateway with registry := registry } task serve .finished
        | .joining | .greeting | .pumping => gateway.cleanUp task serve
        | .refusing | .closing | .departing => some (gateway.goto task serve .finished)
        | .finished => none

/-- The registry holds the connection. -/
def Holds (gateway : ServingGateway) (connection : ConnectionRef) : Prop :=
  connection ∈ gateway.registry.forUser connection.userId

instance (gateway : ServingGateway) (connection : ConnectionRef) :
    Decidable (gateway.Holds connection) :=
  inferInstanceAs (Decidable (_ ∈ _))

/-- The call of `serve` is suspended in the admission. -/
def Admitting (gateway : ServingGateway) (task : ℕ) : Prop :=
  ∃ serve, gateway.serves.get? task = some serve ∧ serve.stage = .admitting

/-- An exception or a cancellation reached the call during its admission. -/
def Interrupted (limit : ℕ) (events : List ServeEvent) (task : ℕ) : Prop :=
  ∃ before, Moment (step limit) Anything fresh events (.raise task) before ∧ before.Admitting task

/-- The stages between admission and cleanup. -/
def guarded : ServeStage → Bool
  | .admitting | .joining | .greeting | .pumping => true
  | .refusing | .leaving | .closing | .departing | .finished => false

/-- What a step can do, seen from the registry. -/
inductive Effect (gateway : ServingGateway) : ServeEvent → ServingGateway → Prop where
  | accepted (task : ℕ) (userId : Uuid) (after : ServingGateway) (new : task ∉ gateway.serves)
      (serves : after.serves = gateway.serves.set task ⟨⟨task, userId⟩, .admitting⟩)
      (holds : ∀ other, after.Holds other ↔ other = ⟨task, userId⟩ ∨ gateway.Holds other) :
      Effect gateway (.serve task userId) after
  | turnedAway (task : ℕ) (userId : Uuid) (after : ServingGateway) (new : task ∉ gateway.serves)
      (serves : after.serves = gateway.serves.set task ⟨⟨task, userId⟩, .refusing⟩)
      (holds : ∀ other, after.Holds other ↔ gateway.Holds other) :
      Effect gateway (.serve task userId) after
  | waited (event : ServeEvent) (after : ServingGateway) (quiet : ∀ task, event ≠ .raise task)
      (serves : after.serves = gateway.serves)
      (holds : ∀ other, after.Holds other ↔ gateway.Holds other) : Effect gateway event after
  | moved (event : ServeEvent) (after : ServingGateway) (task : ℕ) (serve : ServeCall)
      (stage : ServeStage) (known : gateway.serves.get? task = some serve)
      (serves : after.serves = gateway.serves.set task { serve with stage := stage })
      (holds : ∀ other, after.Holds other ↔ gateway.Holds other)
      (alike : guarded stage = guarded serve.stage) (unfinished : serve.stage ≠ .finished)
      (quiet : ∀ other, event = .raise other → other = task ∧ serve.stage ≠ .admitting) :
      Effect gateway event after
  | cleaned (event : ServeEvent) (after : ServingGateway) (task : ℕ) (serve : ServeCall)
      (stage : ServeStage) (known : gateway.serves.get? task = some serve)
      (serves : after.serves = gateway.serves.set task { serve with stage := stage })
      (holds : ∀ other, after.Holds other ↔ other ≠ serve.connection ∧ gateway.Holds other)
      (outside : guarded stage = false) (unfinished : serve.stage ≠ .finished)
      (quiet : ∀ other, event = .raise other → other = task ∧ serve.stage ≠ .admitting) :
      Effect gateway event after
  | interrupted (after : ServingGateway) (task : ℕ) (serve : ServeCall)
      (known : gateway.serves.get? task = some serve) (admitting : serve.stage = .admitting)
      (serves : after.serves = gateway.serves.set task { serve with stage := .finished })
      (holds : ∀ other, after.Holds other ↔ gateway.Holds other) :
      Effect gateway (.raise task) after

section Effects

variable {gateway after : ServingGateway} {task : ℕ} {serve : ServeCall} {limit : ℕ}

theorem mem_forUser_admitted (registry : ConnectionRegistry) (connection other : ConnectionRef)
    (table : SyncTable) :
    other ∈ ConnectionRegistry.forUser { registry with
        byUser := registry.byUser.set connection.userId
          ((registry.forUser connection.userId).add connection)
        table := table } other.userId ↔
      other = connection ∨ other ∈ registry.forUser other.userId := by
  by_cases about : other.userId = connection.userId
  · simp [ConnectionRegistry.forUser, about]
  · have differs : other ≠ connection := fun same => about (congrArg _ same)
    simp [ConnectionRegistry.forUser, about, differs]

theorem mem_forUser_dismissed {registry : ConnectionRegistry} {connection : ConnectionRef}
    {byUser : Dict Uuid (KeySet ConnectionRef)} (table : SyncTable)
    (fewer : ∀ userId, byUser.get? userId = if userId = connection.userId then
        some ((registry.forUser userId).discard connection) |>.filter fun kept => kept.size ≠ 0
      else registry.byUser.get? userId) (other : ConnectionRef) :
    other ∈ ConnectionRegistry.forUser { registry with byUser := byUser, table := table }
        other.userId ↔
      other ≠ connection ∧ other ∈ registry.forUser other.userId := by
  rw [ConnectionRegistry.forUser, fewer]
  by_cases about : other.userId = connection.userId
  · rw [if_pos about, ← KeySet.mem_discard]
    by_cases empty : ((registry.forUser other.userId).discard connection).size = 0
    · have nothing : other ∉ (registry.forUser other.userId).discard connection := by
        rw [← Dict.card_support, Finset.card_eq_zero] at empty
        rw [← Dict.mem_support, empty]
        exact Finset.notMem_empty other
      simpa [Option.filter, empty] using nothing
    · simp [Option.filter, empty]
  · have differs : other ≠ connection := fun same => about (congrArg _ same)
    simp [ConnectionRegistry.forUser, about, differs]

theorem effect_of_cleanUp {event : ServeEvent} (known : gateway.serves.get? task = some serve)
    (unfinished : serve.stage ≠ .finished)
    (quiet : ∀ other, event = .raise other → other = task ∧ serve.stage ≠ .admitting)
    (cleaned : gateway.cleanUp task serve = some after) : gateway.Effect event after := by
  obtain ⟨registry, stepTo, rfl⟩ := Option.map_eq_some_iff.mp cleaned
  refine .cleaned event _ task serve _ known rfl ?_ ?_ unfinished quiet
  · intro other
    have effect := ConnectionRegistry.effect_of_step stepTo
    cases effect with
    | unknown _ _ absent =>
        refine ⟨fun held => ⟨?_, held⟩, fun held => held.2⟩
        rintro rfl
        exact absent held
    | dismissed _ _ byUser free fewer => exact mem_forUser_dismissed _ fewer other
  · split <;> rfl

theorem effect_of_callMoves {event : ServeEvent} {registryEvent : RegistryEvent}
    (known : gateway.serves.get? task = some serve)
    (quiet : ∀ other, event ≠ .raise other)
    (atCall : registryEvent = .acquire task ∨ registryEvent = .hookDone task)
    (moves : gateway.callMoves task serve registryEvent = some after) :
    gateway.Effect event after := by
  obtain ⟨inCall, moved⟩ := Option.ite_none_right_eq_some.mp moves
  obtain ⟨registry, stepTo, rfl⟩ := Option.map_eq_some_iff.mp moved
  have byUser : registry.byUser = gateway.registry.byUser := by
    rcases atCall with rfl | rfl
    · cases ConnectionRegistry.effect_of_step stepTo
      exact ConnectionRegistry.settle_byUser ..
    · cases ConnectionRegistry.effect_of_step stepTo
      exact ConnectionRegistry.settle_byUser ..
  have holds (serves : Dict ℕ ServeCall) (other : ConnectionRef) :
      Holds ⟨registry, serves⟩ other ↔ gateway.Holds other := by
    rw [Holds, Holds, ConnectionRegistry.forUser, ConnectionRegistry.forUser, byUser]
  split
  case isTrue => exact .waited event _ quiet rfl (holds _)
  case isFalse =>
      refine .moved event _ task serve _ known rfl (holds _) ?_ ?_ fun other raised =>
        absurd raised (quiet other)
      · rcases inCall with isAdmitting | isLeaving
        · simp [isAdmitting, guarded]
        · simp [isLeaving, guarded]
      · rcases inCall with isAdmitting | isLeaving
        · simp [isAdmitting]
        · simp [isLeaving]

/-- The registry call of an interrupted wait only gives its lock back. -/
theorem holds_raise {registry : ConnectionRegistry} {serves : Dict ℕ ServeCall}
    (stepTo : gateway.registry.step (.raise task) = some registry) (other : ConnectionRef) :
    Holds ⟨registry, serves⟩ other ↔ gateway.Holds other := by
  cases ConnectionRegistry.effect_of_step stepTo
  rfl

theorem effect_of_serve {userId : Uuid}
    (stepTo : gateway.step limit (.serve task userId) = some after) :
    gateway.Effect (.serve task userId) after := by
  obtain ⟨new, admitted⟩ := Option.ite_none_left_eq_some.mp stepTo
  obtain ⟨registry, joins, rfl⟩ := Option.map_eq_some_iff.mp admitted
  have idle : task ∉ gateway.registry.table.calls := (Option.ite_none_left_eq_some.mp joins).1
  cases ConnectionRegistry.effect_of_step joins with
  | refused _ _ _ full =>
      refine .turnedAway task userId _ new ?_ fun other => Iff.rfl
      rw [if_neg idle]
      rfl
  | admitted _ _ _ free room =>
      refine .accepted task userId _ new ?_ fun other => mem_forUser_admitted _ _ other _
      obtain ⟨sync, calls⟩ := ConnectionRegistry.calls_join gateway.registry.table task .add
        ⟨task, userId⟩
      rw [if_pos (by simp [calls])]
      rfl

theorem effect_of_proceed {ok : Bool}
    (stepTo : gateway.step limit (.proceed task ok) = some after) :
    gateway.Effect (.proceed task ok) after := by
  obtain ⟨serve, known, moves⟩ := Option.bind_eq_some_iff.mp stepTo
  have quiet : ∀ other, ServeEvent.proceed task ok = .raise other →
      other = task ∧ serve.stage ≠ .admitting := by
    intro other same
    cases same
  have onward (stage : ServeStage) (alike : guarded stage = guarded serve.stage)
      (unfinished : serve.stage ≠ .finished)
      (moved : some (gateway.goto task serve stage) = some after) :
      gateway.Effect (.proceed task ok) after := by
    obtain rfl := Option.some.inj moved
    exact .moved _ _ task serve stage known rfl (fun other => Iff.rfl) alike unfinished quiet
  have orElse (stage : ServeStage) (alike : guarded stage = guarded serve.stage)
      (unfinished : serve.stage ≠ .finished)
      (moved : (if ok then some (gateway.goto task serve stage)
        else gateway.cleanUp task serve) = some after) :
      gateway.Effect (.proceed task ok) after := by
    cases ok with
    | true => exact onward stage alike unfinished moved
    | false => exact effect_of_cleanUp known unfinished quiet moved
  cases stage : serve.stage with
  | admitting | leaving | finished => simp [stage] at moves
  | refusing =>
      simp only [stage] at moves
      exact onward .finished (by rw [stage]; rfl) (by rw [stage]; decide) moves
  | joining =>
      simp only [stage] at moves
      exact orElse .greeting (by rw [stage]; rfl) (by rw [stage]; decide) moves
  | greeting =>
      simp only [stage] at moves
      exact orElse .pumping (by rw [stage]; rfl) (by rw [stage]; decide) moves
  | pumping =>
      simp only [stage] at moves
      exact effect_of_cleanUp known (by rw [stage]; decide) quiet moves
  | closing =>
      simp only [stage] at moves
      exact onward .departing (by rw [stage]; rfl) (by rw [stage]; decide) moves
  | departing =>
      simp only [stage] at moves
      exact onward .finished (by rw [stage]; rfl) (by rw [stage]; decide) moves

theorem effect_of_raise (stepTo : gateway.step limit (.raise task) = some after) :
    gateway.Effect (.raise task) after := by
  obtain ⟨serve, known, moves⟩ := Option.bind_eq_some_iff.mp stepTo
  have quiet (other : ℕ) (unlike : serve.stage ≠ .admitting)
      (same : ServeEvent.raise task = .raise other) :
      other = task ∧ serve.stage ≠ .admitting := by
    cases same
    exact ⟨rfl, unlike⟩
  have finishes (alike : guarded serve.stage = false) (unfinished : serve.stage ≠ .finished)
      (moved : some (gateway.goto task serve .finished) = some after) :
      gateway.Effect (.raise task) after := by
    obtain rfl := Option.some.inj moved
    refine .moved _ _ task serve .finished known rfl (fun other => Iff.rfl) alike.symm
      unfinished fun other => quiet other ?_
    intro isAdmitting
    rw [isAdmitting] at alike
    cases alike
  have guard (unlike : serve.stage ≠ .admitting) (unfinished : serve.stage ≠ .finished)
      (moved : gateway.cleanUp task serve = some after) :
      gateway.Effect (.raise task) after :=
    effect_of_cleanUp known unfinished (fun other => quiet other unlike) moved
  cases stage : serve.stage with
  | finished => simp [stage] at moves
  | admitting =>
      simp only [stage] at moves
      obtain ⟨registry, raised, rfl⟩ := Option.map_eq_some_iff.mp moves
      exact .interrupted _ task serve known stage rfl (holds_raise raised)
  | leaving =>
      simp only [stage] at moves
      obtain ⟨registry, raised, rfl⟩ := Option.map_eq_some_iff.mp moves
      refine .moved _ _ task serve .finished known rfl (holds_raise raised) ?_ ?_ ?_
      · rw [stage]
        rfl
      · rw [stage]
        decide
      · exact fun other => quiet other (by rw [stage]; decide)
  | joining | greeting | pumping =>
      simp only [stage] at moves
      exact guard (by rw [stage]; decide) (by rw [stage]; decide) moves
  | refusing | closing | departing =>
      simp only [stage] at moves
      exact finishes (by rw [stage]; rfl) (by rw [stage]; decide) moves

theorem effect_of_step {event : ServeEvent} (stepTo : gateway.step limit event = some after) :
    gateway.Effect event after := by
  cases event with
  | serve task userId => exact effect_of_serve stepTo
  | acquire task =>
      obtain ⟨serve, known, moves⟩ := Option.bind_eq_some_iff.mp stepTo
      exact effect_of_callMoves known (by intro other same; cases same) (Or.inl rfl) moves
  | hookDone task =>
      obtain ⟨serve, known, moves⟩ := Option.bind_eq_some_iff.mp stepTo
      exact effect_of_callMoves known (by intro other same; cases same) (Or.inr rfl) moves
  | proceed task ok => exact effect_of_proceed stepTo
  | raise task => exact effect_of_raise stepTo

/-- A call keeps its connection, and what is past the cleanup stays past it. -/
theorem Effect.keeps {event : ServeEvent} (effect : gateway.Effect event after)
    (known : gateway.serves.get? task = some serve) :
    ∃ moved, after.serves.get? task = some moved ∧ moved.connection = serve.connection ∧
      (guarded serve.stage = false → guarded moved.stage = false) := by
  have new {other : ℕ} {moved : ServeCall} (isNew : other ∉ gateway.serves)
      (serves : after.serves = gateway.serves.set other moved) :
      after.serves.get? task = some serve := by
    rw [serves, Dict.get?_set, if_neg, known]
    rintro rfl
    exact isNew (Dict.mem_iff_exists.mpr ⟨serve, known⟩)
  have same {other : ℕ} {another : ServeCall} {stage : ServeStage}
      (found : gateway.serves.get? other = some another)
      (serves : after.serves = gateway.serves.set other { another with stage := stage })
      (past : guarded another.stage = false → guarded stage = false) :
      ∃ moved, after.serves.get? task = some moved ∧ moved.connection = serve.connection ∧
        (guarded serve.stage = false → guarded moved.stage = false) := by
    rw [serves, Dict.get?_set]
    split
    case isTrue isOther =>
        subst isOther
        obtain rfl := Option.some.inj (known.symm.trans found)
        exact ⟨_, rfl, rfl, past⟩
    case isFalse => exact ⟨serve, known, rfl, id⟩
  cases effect with
  | accepted other userId _ isNew serves => exact ⟨serve, new isNew serves, rfl, id⟩
  | turnedAway other userId _ isNew serves => exact ⟨serve, new isNew serves, rfl, id⟩
  | waited _ _ quiet serves =>
      rw [serves]
      exact ⟨serve, known, rfl, id⟩
  | moved _ _ other another stage found serves holds alike =>
      exact same found serves fun past => alike.trans past
  | cleaned _ _ other another stage found serves holds outside =>
      exact same found serves fun _ => outside
  | interrupted _ other another found isAdmitting serves => exact same found serves fun _ => rfl

/-- The connections of the registry are those of the calls. -/
def Known (gateway : ServingGateway) (connection : ConnectionRef) : Prop :=
  ∃ serve, gateway.serves.get? connection.serial = some serve ∧ serve.connection = connection

/-- The registry only gains the connection of a new call. -/
theorem mem_forUser_of_step {event : ServeEvent} (stepTo : gateway.step limit event = some after)
    {userId : Uuid} {connection : ConnectionRef}
    (found : connection ∈ after.registry.forUser userId) :
    connection ∈ gateway.registry.forUser userId ∨ after.Known connection := by
  have unlike {registryEvent : RegistryEvent} {registry : ConnectionRegistry}
      (registryTo : gateway.registry.step registryEvent = some registry)
      (isFound : connection ∈ registry.forUser userId)
      (other : ∀ task bound, registryEvent ≠ .add task connection bound) :
      connection ∈ gateway.registry.forUser userId := by
    rcases ConnectionRegistry.mem_forUser_of_effect (ConnectionRegistry.effect_of_step registryTo)
        isFound with earlier | ⟨task, bound, isAdd⟩
    · exact earlier
    · exact absurd isAdd (other task bound)
  have cleans {task : ℕ} {serve : ServeCall} (cleaned : gateway.cleanUp task serve = some after) :
      connection ∈ gateway.registry.forUser userId := by
    obtain ⟨registry, registryTo, rfl⟩ := Option.map_eq_some_iff.mp cleaned
    exact unlike registryTo found (by intro _ _ same; cases same)
  have calls {task : ℕ} {serve : ServeCall} {registryEvent : RegistryEvent}
      (moves : gateway.callMoves task serve registryEvent = some after)
      (other : ∀ task bound, registryEvent ≠ .add task connection bound) :
      connection ∈ gateway.registry.forUser userId := by
    obtain ⟨-, moved⟩ := Option.ite_none_right_eq_some.mp moves
    obtain ⟨registry, registryTo, rfl⟩ := Option.map_eq_some_iff.mp moved
    refine unlike registryTo ?_ other
    split at found
    case isTrue => exact found
    case isFalse => exact found
  cases event with
  | serve task other =>
      obtain ⟨new, admitted⟩ := Option.ite_none_left_eq_some.mp stepTo
      obtain ⟨registry, registryTo, rfl⟩ := Option.map_eq_some_iff.mp admitted
      rcases ConnectionRegistry.mem_forUser_of_effect (ConnectionRegistry.effect_of_step registryTo)
        found with earlier | ⟨_, _, isAdd⟩
      · exact Or.inl earlier
      · cases isAdd
        exact Or.inr ⟨_, by rw [goto, Dict.get?_set, if_pos rfl], rfl⟩
  | acquire task =>
      obtain ⟨serve, known, moves⟩ := Option.bind_eq_some_iff.mp stepTo
      exact Or.inl (calls moves (by intro _ _ same; cases same))
  | hookDone task =>
      obtain ⟨serve, known, moves⟩ := Option.bind_eq_some_iff.mp stepTo
      exact Or.inl (calls moves (by intro _ _ same; cases same))
  | proceed task ok =>
      obtain ⟨serve, known, moves⟩ := Option.bind_eq_some_iff.mp stepTo
      have onward {stage : ServeStage} (moved : some (gateway.goto task serve stage) = some after) :
          connection ∈ gateway.registry.forUser userId := by
        obtain rfl := Option.some.inj moved
        exact found
      left
      cases stage : serve.stage with
      | admitting | leaving | finished => simp [stage] at moves
      | refusing | closing | departing =>
          simp only [stage] at moves
          exact onward moves
      | joining | greeting =>
          simp only [stage] at moves
          cases ok with
          | true => exact onward moves
          | false => exact cleans moves
      | pumping =>
          simp only [stage] at moves
          exact cleans moves
  | raise task =>
      obtain ⟨serve, known, moves⟩ := Option.bind_eq_some_iff.mp stepTo
      left
      cases stage : serve.stage with
      | finished => simp [stage] at moves
      | admitting | leaving =>
          simp only [stage] at moves
          obtain ⟨registry, registryTo, rfl⟩ := Option.map_eq_some_iff.mp moves
          exact unlike registryTo found (by intro _ _ same; cases same)
      | joining | greeting | pumping =>
          simp only [stage] at moves
          exact cleans moves
      | refusing | closing | departing =>
          simp only [stage] at moves
          obtain rfl := Option.some.inj moves
          exact found

end Effects

/-- The registry holds the connection of a call from its admission to its
cleanup, and for good when the admission was interrupted. -/
structure Placed (limit : ℕ) (events : List ServeEvent) (gateway : ServingGateway) : Prop where
  own : ∀ task serve, gateway.serves.get? task = some serve → serve.connection.serial = task
  known : ∀ connection, gateway.Holds connection → connection.serial ∈ gateway.serves
  held : ∀ task serve, gateway.serves.get? task = some serve →
    (gateway.Holds serve.connection ↔
      guarded serve.stage = true ∨ Interrupted limit events task)
  ended : ∀ task, Interrupted limit events task →
    ∃ serve, gateway.serves.get? task = some serve ∧ serve.stage = .finished

section Cleanup

variable {gateway after : ServingGateway} {limit : ℕ} {events : List ServeEvent}
  {event : ServeEvent} {task : ℕ} {moved : ServeCall}

theorem interrupted_snoc_iff (run : Run (step limit) Anything fresh events gateway) :
    Interrupted limit (events ++ [event]) task ↔
      Interrupted limit events task ∨ event = .raise task ∧ gateway.Admitting task := by
  simp only [Interrupted, run.moment_snoc_iff]
  constructor
  · rintro ⟨before, earlier | ⟨rfl, rfl⟩, isAdmitting⟩
    · exact Or.inl ⟨before, earlier, isAdmitting⟩
    · exact Or.inr ⟨rfl, isAdmitting⟩
  · rintro (⟨before, earlier, isAdmitting⟩ | ⟨rfl, isAdmitting⟩)
    · exact ⟨before, Or.inl earlier, isAdmitting⟩
    · exact ⟨gateway, Or.inr ⟨rfl, rfl⟩, isAdmitting⟩

/-- One call moves; the others stay as they are. -/
theorem Placed.update (placed : gateway.Placed limit events)
    (serves : after.serves = gateway.serves.set task moved)
    (own : moved.connection.serial = task)
    (others : ∀ other, other ≠ moved.connection → (after.Holds other ↔ gateway.Holds other))
    (self : after.Holds moved.connection ↔
      guarded moved.stage = true ∨ Interrupted limit (events ++ [event]) task)
    (elsewhere : ∀ other, other ≠ task →
      (Interrupted limit (events ++ [event]) other ↔ Interrupted limit events other))
    (ended : Interrupted limit (events ++ [event]) task → moved.stage = .finished) :
    after.Placed limit (events ++ [event]) := by
  have cases_get {other : ℕ} {serve : ServeCall} (found : after.serves.get? other = some serve) :
      other = task ∧ serve = moved ∨ other ≠ task ∧ gateway.serves.get? other = some serve := by
    rw [serves] at found
    exact Dict.get?_set_cases found
  refine ⟨?_, ?_, ?_, ?_⟩
  · intro other serve found
    rcases cases_get found with ⟨rfl, rfl⟩ | ⟨-, earlier⟩
    · exact own
    · exact placed.own other serve earlier
  · intro connection holds
    rw [serves, Dict.mem_set]
    by_cases same : connection = moved.connection
    · exact Or.inl (by rw [same, own])
    · exact Or.inr (placed.known connection ((others connection same).mp holds))
  · intro other serve found
    rcases cases_get found with ⟨rfl, rfl⟩ | ⟨differs, earlier⟩
    · exact self
    · have isOther : serve.connection ≠ moved.connection := by
        intro same
        rw [← own, ← same, placed.own other serve earlier] at differs
        exact differs rfl
      rw [others _ isOther, elsewhere other differs]
      exact placed.held other serve earlier
  · intro other interrupted
    by_cases same : other = task
    · subst same
      exact ⟨moved, by rw [serves, Dict.get?_set, if_pos rfl], ended interrupted⟩
    · obtain ⟨serve, found, isFinished⟩ := placed.ended other ((elsewhere other same).mp interrupted)
      exact ⟨serve, by rw [serves, Dict.get?_set, if_neg same, found], isFinished⟩

theorem Placed.step (run : Run (step limit) Anything fresh events gateway)
    (placed : gateway.Placed limit events) (effect : gateway.Effect event after) :
    after.Placed limit (events ++ [event]) := by
  have snoc (other : ℕ) := @interrupted_snoc_iff gateway limit events event other run
  have earlierOnly {other : ℕ} (quiet : event = .raise other → ¬ gateway.Admitting other) :
      Interrupted limit (events ++ [event]) other ↔ Interrupted limit events other := by
    rw [snoc]
    exact or_iff_left fun last => quiet last.1 last.2
  have knownOnly {other : ℕ} (new : other ∉ gateway.serves) : ¬ Interrupted limit events other := by
    intro interrupted
    obtain ⟨serve, found, -⟩ := placed.ended other interrupted
    exact new (Dict.mem_iff_exists.mpr ⟨serve, found⟩)
  have unfinishedOnly {other : ℕ} {serve : ServeCall}
      (found : gateway.serves.get? other = some serve) (unfinished : serve.stage ≠ .finished) :
      ¬ Interrupted limit events other := by
    intro interrupted
    obtain ⟨same, alsoFound, isFinished⟩ := placed.ended other interrupted
    rw [found] at alsoFound
    obtain rfl := Option.some.inj alsoFound
    exact unfinished isFinished
  have alone {other third : ℕ} {serve : ServeCall}
      (quiet : ∀ raised, event = .raise raised → raised = other ∧ serve.stage ≠ .admitting)
      (found : gateway.serves.get? other = some serve) :
      Interrupted limit (events ++ [event]) third ↔ Interrupted limit events third := by
    refine earlierOnly fun raised => ?_
    obtain ⟨rfl, unlike⟩ := quiet third raised
    rintro ⟨same, alsoFound, isAdmitting⟩
    rw [found] at alsoFound
    obtain rfl := Option.some.inj alsoFound
    exact unlike isAdmitting
  cases effect with
  | accepted task userId _ new serves holds =>
      have same (other : ℕ) := @earlierOnly other (by intro raised; cases raised)
      refine placed.update serves rfl ?_ ?_ (fun other _ => same other) ?_
      · intro other differs
        rw [holds]
        exact or_iff_right differs
      · simp [holds, guarded]
      · intro interrupted
        exact absurd ((same task).mp interrupted) (knownOnly new)
  | turnedAway task userId _ new serves holds =>
      have same (other : ℕ) := @earlierOnly other (by intro raised; cases raised)
      refine placed.update serves rfl (fun other _ => holds other) ?_ (fun other _ => same other) ?_
      · rw [holds, same]
        refine iff_of_false (fun held => new (placed.known _ held)) ?_
        rintro (isGuarded | interrupted)
        · cases isGuarded
        · exact knownOnly new interrupted
      · intro interrupted
        exact absurd ((same task).mp interrupted) (knownOnly new)
  | waited _ _ quiet serves holds =>
      have same (other : ℕ) := @earlierOnly other fun raised => absurd raised (quiet other)
      refine ⟨?_, ?_, ?_, ?_⟩
      · rw [serves]
        exact placed.own
      · intro connection held
        rw [serves]
        exact placed.known connection ((holds connection).mp held)
      · intro other serve found
        rw [serves] at found
        rw [holds, same]
        exact placed.held other serve found
      · intro other interrupted
        rw [serves]
        exact placed.ended other ((same other).mp interrupted)
  | moved _ _ task serve stage known serves holds alike unfinished quiet =>
      have same (other : ℕ) := @alone task other serve quiet known
      refine placed.update serves (placed.own task serve known) (fun other _ => holds other) ?_
        (fun other _ => same other) ?_
      · rw [holds, same, alike]
        exact placed.held task serve known
      · intro interrupted
        exact absurd ((same task).mp interrupted) (unfinishedOnly known unfinished)
  | cleaned _ _ task serve stage known serves holds outside unfinished quiet =>
      have same (other : ℕ) := @alone task other serve quiet known
      refine placed.update serves (placed.own task serve known) ?_ ?_ (fun other _ => same other) ?_
      · intro other differs
        rw [holds]
        exact and_iff_right differs
      · rw [holds, same, outside]
        refine iff_of_false (fun held => held.1 rfl) ?_
        rintro (isGuarded | interrupted)
        · cases isGuarded
        · exact unfinishedOnly known unfinished interrupted
      · intro interrupted
        exact absurd ((same task).mp interrupted) (unfinishedOnly known unfinished)
  | interrupted _ task serve known isAdmitting serves holds =>
      refine placed.update serves (placed.own task serve known) (fun other _ => holds other) ?_ ?_ ?_
      · refine iff_of_true ?_ ?_
        · rw [holds, placed.held task serve known]
          exact Or.inl (by rw [isAdmitting]; rfl)
        · exact Or.inr ((snoc task).mpr (Or.inr ⟨rfl, serve, known, isAdmitting⟩))
      · intro other differs
        refine earlierOnly fun raised => ?_
        cases raised
        exact absurd rfl differs
      · exact fun _ => rfl

theorem placed_fresh (limit : ℕ) : fresh.Placed limit [] := by
  refine ⟨?_, ?_, ?_, ?_⟩
  · intro task serve found
    cases found
  · intro connection held
    cases held
  · intro task serve found
    cases found
  · rintro task ⟨before, moment, -⟩
    exact absurd moment not_moment_nil

theorem placed_of_run (run : Run (step limit) Anything fresh events gateway) :
    gateway.Placed limit events := by
  induction run with
  | nil => exact placed_fresh limit
  | snoc earlier _ stepTo ih => exact ih.step earlier (effect_of_step stepTo)

end Cleanup

end ServingGateway

open ServingGateway

/-- A finished call of `serve` has left the registry unless an exception or a
cancellation reached it in the admission: there the connection is listed already
and nothing takes it out again. -/
theorem serve_cleans_up_iff {limit : ℕ} {events : List ServeEvent} {gateway : ServingGateway}
    (run : Run (ServingGateway.step limit) Anything ServingGateway.fresh events gateway)
    (task : ℕ) (serve : ServeCall) (known : gateway.serves.get? task = some serve)
    (finished : serve.stage = .finished) :
    serve.connection ∉ gateway.registry.forUser serve.connection.userId ↔
      ¬ Interrupted limit events task := by
  have held := (placed_of_run run).held task serve known
  rw [finished] at held
  refine not_congr (held.trans (or_iff_right ?_))
  decide

/-- A socket is served while the user's other socket comes and goes. -/
def servedTwice : List ServeEvent :=
  [.serve 0 7, .acquire 0, .serve 1 7, .hookDone 0, .acquire 1, .proceed 1 true, .raise 1,
    .acquire 1, .proceed 1 true, .proceed 1 true]

theorem serve_cleans_up_servedTwice :
    ∃ gateway, Run (ServingGateway.step 2) Anything ServingGateway.fresh servedTwice gateway ∧
      gateway.serves.get? 1 = some ⟨⟨1, 7⟩, .finished⟩ ∧
      (⟨1, 7⟩ ∉ gateway.registry.forUser 7 ↔ ¬ Interrupted 2 servedTwice 1) := by
  obtain ⟨gateway, executed, known⟩ := @exists_of_exec _ _ (ServingGateway.step 2) Anything
    ServingGateway.fresh _ (fun gateway => gateway.serves.get? 1 = some ⟨⟨1, 7⟩, .finished⟩) _
    servedTwice (by decide)
  have run := run_of_exec executed
  exact ⟨gateway, run, known, serve_cleans_up_iff run 1 _ known rfl⟩

/-- The socket is dropped while the subscription of its user is being made: the
call is over, and the registry still counts the connection. -/
theorem serve_keeps_cancelled_admission :
    ∃ gateway, Run (ServingGateway.step 2) Anything ServingGateway.fresh
        [.serve 0 7, .acquire 0, .raise 0] gateway ∧
      gateway.serves.get? 0 = some ⟨⟨0, 7⟩, .finished⟩ ∧
      ⟨0, 7⟩ ∈ gateway.registry.forUser 7 := by
  obtain ⟨gateway, executed, known⟩ := @exists_of_exec _ _ (ServingGateway.step 2) Anything
    ServingGateway.fresh _ (fun gateway => gateway.serves.get? 0 = some ⟨⟨0, 7⟩, .finished⟩ ∧
      ⟨0, 7⟩ ∈ gateway.registry.forUser 7) _ [.serve 0 7, .acquire 0, .raise 0] (by decide)
  exact ⟨gateway, run_of_exec executed, known⟩

end GeoTrack
