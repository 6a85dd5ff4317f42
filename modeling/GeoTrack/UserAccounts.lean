import GeoTrack.LabelledRuns
import GeoTrack.OrderedDict
import GeoTrack.Tables

/-!
# Accounts of users

There is no registration: the first login with a name creates its account.  Two
first logins race.  The insert of one waits for the other's transaction, and
then either succeeds itself or does nothing, after which a second statement reads
the row that won.
-/

open LabelledRuns

namespace GeoTrack

def usernameCharacter (character : Char) : Bool :=
  character.isAlphanum || character = '_' || character = '.' || character = '-'

/-- The pattern of a username in a login. -/
def usernameMatches (username : String) : Bool :=
  3 ≤ username.length && username.length ≤ 32 && username.toList.all usernameCharacter

/-- `_normalise`; a username has no letters outside ASCII. -/
def normalise (username : String) : String := .ofList (username.toList.map Char.toLower)

/-- The same name letter by letter, in upper or lower case. -/
def SameUpToCase (first second : String) : Prop :=
  List.Forall₂ (fun one other : Char => one.toLower = other.toLower) first.toList second.toList

theorem normalise_eq_iff {first second : String} :
    normalise first = normalise second ↔ SameUpToCase first second := by
  unfold normalise SameUpToCase
  rw [String.ofList_inj, ← List.forall₂_eq_eq_eq, List.forall₂_map_left_iff,
    List.forall₂_map_right_iff]

/-- The check on the column, which only takes names in lower case. -/
def usernameStorable (username : String) : Bool :=
  username = normalise username && usernameMatches username

structure UserOut where
  id : Uuid
  username : String
deriving DecidableEq

/-- How far a login has come. -/
inductive LoginStage where
  | received
  /-- Its row is written and not committed. -/
  | inserted (id : Uuid)
  /-- The insert did nothing. -/
  | conflicted
  | found (id : Uuid)
  | answered (user : UserOut)
  /-- Neither statement gave a row. -/
  | vanished
  /-- The transaction was rolled back. -/
  | failed
deriving DecidableEq

/-- The committed accounts and the logins, each with its name. -/
structure UserAccounts where
  rows : Dict String Uuid
  logins : Dict ℕ (String × LoginStage)

inductive LoginEvent where
  | login (call : ℕ) (username : String)
  /-- The insert is executed, with a new id. -/
  | insert (call : ℕ) (newId : Uuid)
  | select (call : ℕ)
  | commit (call : ℕ)
  | abort (call : ℕ)
deriving DecidableEq

namespace UserAccounts

def empty : UserAccounts := ⟨∅, ∅⟩

/-- What a login was answered. -/
def answer? (accounts : UserAccounts) (call : ℕ) : Option UserOut :=
  match accounts.logins.get? call with
  | some (_, .answered user) => some user
  | _ => none

def goto (accounts : UserAccounts) (call : ℕ) (username : String) (stage : LoginStage) :
    UserAccounts :=
  { accounts with logins := accounts.logins.set call (username, stage) }

/-- A transaction that is not committed keeps the name or the id to itself. -/
def reserved (accounts : UserAccounts) (username : String) (newId : Uuid) : Bool :=
  accounts.logins.entries.any fun entry =>
    match entry.2.2 with
    | .inserted id => entry.2.1 = username || id = newId
    | _ => false

def step (accounts : UserAccounts) : LoginEvent → Option UserAccounts
  | .login call username =>
      if call ∈ accounts.logins ∨ usernameMatches username = false then none
      else some (accounts.goto call (normalise username) .received)
  | .insert call newId =>
      match accounts.logins.get? call with
      | some (username, .received) =>
          -- the statement waits for such a transaction to end
          if accounts.reserved username newId then none
          else if username ∈ accounts.rows then some (accounts.goto call username .conflicted)
          else if newId ∈ accounts.rows.values ∨ usernameStorable username = false then
            some (accounts.goto call username .failed)
          else some (accounts.goto call username (.inserted newId))
      | _ => none
  | .select call =>
      match accounts.logins.get? call with
      | some (username, .conflicted) =>
          match accounts.rows.get? username with
          | some id => some (accounts.goto call username (.found id))
          | none => some (accounts.goto call username .vanished)
      | _ => none
  | .commit call =>
      match accounts.logins.get? call with
      | some (username, .inserted id) =>
          some ({ accounts with rows := accounts.rows.set username id }.goto call username
            (.answered ⟨id, username⟩))
      | some (username, .found id) =>
          some (accounts.goto call username (.answered ⟨id, username⟩))
      | _ => none
  | .abort call =>
      match accounts.logins.get? call with
      | some (username, stage) =>
          match stage with
          | .answered _ => none
          | _ => some (accounts.goto call username .failed)
      | none => none

/-- What the table says about a login that has come this far. -/
def Settles (rows : Dict String Uuid) (username : String) : LoginStage → Prop
  | .conflicted => username ∈ rows
  | .found id => rows.get? username = some id
  | .answered user => user.username = username ∧ rows.get? username = some user.id
  | .vanished => False
  | _ => True

theorem Settles.mono {rows later : Dict String Uuid} {username : String} {stage : LoginStage}
    (settles : Settles rows username stage)
    (kept : ∀ name id, rows.get? name = some id → later.get? name = some id) :
    Settles later username stage := by
  cases stage with
  | conflicted =>
      obtain ⟨id, found⟩ := Dict.mem_iff_exists.mp settles
      exact Dict.mem_iff_exists.mpr ⟨id, kept username id found⟩
  | found id => exact kept username id settles
  | answered user => exact ⟨settles.1, kept username user.id settles.2⟩
  | vanished => exact settles
  | received | inserted | failed => trivial

/-- No two accounts share an id, a row that is not committed clashes with none,
and what the logins have seen is still there. -/
structure Sound (accounts : UserAccounts) : Prop where
  distinct : ∀ one other id, accounts.rows.get? one = some id →
    accounts.rows.get? other = some id → one = other
  pending : ∀ call username id, accounts.logins.get? call = some (username, .inserted id) →
    username ∉ accounts.rows ∧ ∀ other, accounts.rows.get? other ≠ some id
  apart : ∀ one other username name id another, one ≠ other →
    accounts.logins.get? one = some (username, .inserted id) →
    accounts.logins.get? other = some (name, .inserted another) → username ≠ name ∧ id ≠ another
  settled : ∀ call username stage, accounts.logins.get? call = some (username, stage) →
    Settles accounts.rows username stage

section Steps

variable {accounts after : UserAccounts} {call : ℕ} {username : String}

theorem get?_goto (accounts : UserAccounts) (call other : ℕ) (username : String)
    (stage : LoginStage) : (accounts.goto call username stage).logins.get? other =
      if other = call then some (username, stage) else accounts.logins.get? other :=
  Dict.get?_set ..

/-- A login that writes nothing goes on. -/
theorem Sound.pass (sound : accounts.Sound) {stage : LoginStage}
    (settles : Settles accounts.rows username stage) (reads : ∀ id, stage ≠ .inserted id) :
    (accounts.goto call username stage).Sound := by
  have before : ∀ other name id,
      (accounts.goto call username stage).logins.get? other = some (name, .inserted id) →
      accounts.logins.get? other = some (name, .inserted id) := by
    intro other name id found
    rw [get?_goto] at found
    split at found
    case isTrue => exact absurd (Prod.mk.inj (Option.some.inj found)).2 (reads id)
    case isFalse => exact found
  refine ⟨sound.distinct, ?pending, ?apart, ?settled⟩
  case pending => exact fun other name id found => sound.pending other name id (before _ _ _ found)
  case apart =>
      intro one other name name' id id' differs found found'
      exact sound.apart one other name name' id id' differs (before _ _ _ found) (before _ _ _ found')
  case settled =>
      intro other name held found
      rw [get?_goto] at found
      split at found
      case isTrue =>
          obtain ⟨rfl, rfl⟩ := Prod.mk.inj (Option.some.inj found)
          exact settles
      case isFalse => exact sound.settled other name held found

theorem not_reserved {newId : Uuid} (free : accounts.reserved username newId = false)
    {other : ℕ} {name : String} {id : Uuid}
    (found : accounts.logins.get? other = some (name, .inserted id)) :
    name ≠ username ∧ id ≠ newId := by
  have none_ := List.any_eq_false.mp free _ (Dict.mem_entries_iff.mpr found)
  simpa using none_

/-- The insert of a name that is not taken, with an id that is not taken. -/
theorem Sound.insert (sound : accounts.Sound) {newId : Uuid}
    (free : accounts.reserved username newId = false) (newName : username ∉ accounts.rows)
    (unused : newId ∉ accounts.rows.values) :
    (accounts.goto call username (.inserted newId)).Sound := by
  have unknown : ∀ other, accounts.rows.get? other ≠ some newId := by
    intro other found
    exact unused (List.mem_map.mpr ⟨_, Dict.mem_entries_iff.mpr found, rfl⟩)
  refine ⟨sound.distinct, ?pending, ?apart, ?settled⟩
  case pending =>
      intro other name id found
      rw [get?_goto] at found
      split at found
      case isTrue =>
          obtain ⟨rfl, same⟩ := Prod.mk.inj (Option.some.inj found)
          obtain rfl := LoginStage.inserted.inj same
          exact ⟨newName, unknown⟩
      case isFalse => exact sound.pending other name id found
  case apart =>
      intro one other name name' id id' differs found found'
      rw [get?_goto] at found found'
      split at found
      case isTrue isOne =>
          obtain ⟨rfl, same⟩ := Prod.mk.inj (Option.some.inj found)
          obtain rfl := LoginStage.inserted.inj same
          rw [if_neg (fun isOther => differs (isOne.trans isOther.symm))] at found'
          have clash := not_reserved free found'
          exact ⟨clash.1.symm, clash.2.symm⟩
      case isFalse =>
          split at found'
          case isTrue =>
              obtain ⟨rfl, same⟩ := Prod.mk.inj (Option.some.inj found')
              obtain rfl := LoginStage.inserted.inj same
              exact not_reserved free found
          case isFalse => exact sound.apart one other name name' id id' differs found found'
  case settled =>
      intro other name stage found
      rw [get?_goto] at found
      split at found
      case isTrue =>
          obtain ⟨rfl, rfl⟩ := Prod.mk.inj (Option.some.inj found)
          trivial
      case isFalse => exact sound.settled other name stage found

/-- The commit of a new account. -/
theorem Sound.commit (sound : accounts.Sound) {id : Uuid}
    (found : accounts.logins.get? call = some (username, .inserted id)) :
    ({ accounts with rows := accounts.rows.set username id }.goto call username
      (.answered ⟨id, username⟩)).Sound := by
  obtain ⟨newName, unknown⟩ := sound.pending call username id found
  have kept : ∀ name other, accounts.rows.get? name = some other →
      (accounts.rows.set username id).get? name = some other := by
    intro name other known
    have differs : name ≠ username := by
      rintro rfl
      exact newName (Dict.mem_iff_exists.mpr ⟨other, known⟩)
    rw [Dict.get?_set, if_neg differs]
    exact known
  refine ⟨?distinct, ?pending, ?apart, ?settled⟩
  case distinct =>
      intro one other shared first second
      rcases Dict.get?_set_cases first with ⟨rfl, rfl⟩ | ⟨_, firstBefore⟩
      · rcases Dict.get?_set_cases second with ⟨rfl, _⟩ | ⟨_, secondBefore⟩
        · rfl
        · exact absurd secondBefore (unknown other)
      · rcases Dict.get?_set_cases second with ⟨rfl, rfl⟩ | ⟨_, secondBefore⟩
        · exact absurd firstBefore (unknown one)
        · exact sound.distinct one other shared firstBefore secondBefore
  case pending =>
      intro other name another pending
      rw [get?_goto] at pending
      split at pending
      case isTrue => cases pending
      case isFalse differs =>
          obtain ⟨otherName, otherId⟩ := sound.apart other call name username another id differs
            pending found
          obtain ⟨unstored, unused⟩ := sound.pending other name another pending
          constructor
          · rw [Dict.mem_iff_exists]
            rintro ⟨held, known⟩
            rcases Dict.get?_set_cases known with ⟨same, _⟩ | ⟨_, known⟩
            · exact otherName same
            · exact unstored (Dict.mem_iff_exists.mpr ⟨held, known⟩)
          · intro holder known
            rcases Dict.get?_set_cases known with ⟨_, same⟩ | ⟨_, known⟩
            · exact otherId same
            · exact unused holder known
  case apart =>
      intro one other name name' another another' differs first second
      rw [get?_goto] at first second
      split at first
      case isTrue => cases first
      case isFalse =>
          split at second
          case isTrue => cases second
          case isFalse => exact sound.apart one other name name' another another' differs first second
  case settled =>
      intro other name stage known
      rw [get?_goto] at known
      split at known
      case isTrue =>
          obtain ⟨rfl, rfl⟩ := Prod.mk.inj (Option.some.inj known)
          exact ⟨rfl, by rw [goto, Dict.get?_set, if_pos rfl]⟩
      case isFalse => exact (sound.settled other name stage known).mono kept

theorem Sound.step (sound : accounts.Sound) {event : LoginEvent}
    (stepTo : accounts.step event = some after) : after.Sound := by
  unfold UserAccounts.step at stepTo
  cases event with
  | login call username =>
      rw [Option.ite_none_left_eq_some] at stepTo
      obtain ⟨_, same⟩ := stepTo
      obtain rfl := Option.some.inj same
      exact sound.pass trivial nofun
  | insert call newId =>
      dsimp only at stepTo
      split at stepTo
      case h_2 => cases stepTo
      case h_1 username received =>
          rw [Option.ite_none_left_eq_some, Bool.not_eq_true] at stepTo
          obtain ⟨free, stepTo⟩ := stepTo
          split at stepTo
          case isTrue taken =>
              obtain rfl := Option.some.inj stepTo
              exact sound.pass taken nofun
          case isFalse newName =>
              split at stepTo
              case isTrue =>
                  obtain rfl := Option.some.inj stepTo
                  exact sound.pass trivial nofun
              case isFalse storable =>
                  obtain rfl := Option.some.inj stepTo
                  exact sound.insert free newName (not_or.mp storable).1
  | select call =>
      dsimp only at stepTo
      split at stepTo
      case h_2 => cases stepTo
      case h_1 username conflicted =>
          split at stepTo
          case h_1 id found =>
              obtain rfl := Option.some.inj stepTo
              exact sound.pass found nofun
          case h_2 missing =>
              exact absurd (sound.settled call username _ conflicted) (Dict.not_mem_iff.mpr missing)
  | commit call =>
      dsimp only at stepTo
      split at stepTo
      case h_1 username id inserted =>
          obtain rfl := Option.some.inj stepTo
          exact sound.commit inserted
      case h_2 username id found =>
          obtain rfl := Option.some.inj stepTo
          exact sound.pass ⟨rfl, sound.settled call username _ found⟩ nofun
      case h_3 => cases stepTo
  | abort call =>
      dsimp only at stepTo
      split at stepTo
      case h_2 => cases stepTo
      case h_1 username stage _ =>
          split at stepTo
          case h_1 => cases stepTo
          case h_2 =>
              obtain rfl := Option.some.inj stepTo
              exact sound.pass trivial nofun

end Steps

theorem sound_empty : empty.Sound :=
  ⟨fun _ _ _ known => (by cases known), fun _ _ _ found => (by cases found),
    fun _ _ _ _ _ _ _ found => (by cases found), fun _ _ _ found => (by cases found)⟩

/-- The logins are those that were asked for, each under the name it gave. -/
structure Asked (events : List LoginEvent) (accounts : UserAccounts) : Prop where
  listed : ∀ call given, .login call given ∈ events →
    ∃ stage, accounts.logins.get? call = some (normalise given, stage)
  given : ∀ call name stage, accounts.logins.get? call = some (name, stage) →
    ∃ given, .login call given ∈ events ∧ name = normalise given

section Names

variable {events : List LoginEvent} {accounts after : UserAccounts} {event : LoginEvent}
  {call : ℕ} {username : String}

/-- A known login goes on under its name. -/
theorem Asked.pass (asked : Asked events accounts) {before stage : LoginStage}
    (found : accounts.logins.get? call = some (username, before))
    (noLogin : ∀ call given, event ≠ .login call given) :
    Asked (events ++ [event]) (accounts.goto call username stage) where
  listed := by
    intro other given isListed
    obtain earlier | now := List.mem_append.mp isListed
    · obtain ⟨held, known⟩ := asked.listed other given earlier
      rw [get?_goto]
      split
      case isTrue same =>
          obtain ⟨rfl, rfl⟩ := Prod.mk.inj (Option.some.inj (found.symm.trans (same ▸ known)))
          exact ⟨stage, rfl⟩
      case isFalse => exact ⟨held, known⟩
    · exact absurd (List.mem_singleton.mp now).symm (noLogin other given)
  given := by
    intro other name held known
    have before : ∃ held, accounts.logins.get? other = some (name, held) := by
      rw [get?_goto] at known
      split at known
      case isTrue same =>
          obtain ⟨rfl, -⟩ := Prod.mk.inj (Option.some.inj known)
          exact ⟨_, same ▸ found⟩
      case isFalse => exact ⟨held, known⟩
    obtain ⟨_, known⟩ := before
    obtain ⟨given, earlier, isName⟩ := asked.given other name _ known
    exact ⟨given, List.mem_append_left _ earlier, isName⟩

/-- A new login is entered under the name it gave. -/
theorem Asked.login (asked : Asked events accounts) {given : String}
    (new : call ∉ accounts.logins) :
    Asked (events ++ [.login call given]) (accounts.goto call (normalise given) .received) where
  listed := by
    intro other name isListed
    rw [get?_goto]
    obtain earlier | now := List.mem_append.mp isListed
    · obtain ⟨held, known⟩ := asked.listed other name earlier
      have differs : other ≠ call := by
        rintro rfl
        exact new (Dict.mem_iff_exists.mpr ⟨_, known⟩)
      exact ⟨held, by rw [if_neg differs, known]⟩
    · obtain ⟨rfl, rfl⟩ := LoginEvent.login.inj (List.mem_singleton.mp now)
      exact ⟨.received, if_pos rfl⟩
  given := by
    intro other name held known
    rw [get?_goto] at known
    split at known
    case isTrue same =>
        obtain ⟨rfl, -⟩ := Prod.mk.inj (Option.some.inj known)
        exact ⟨given, List.mem_append_right _ (same ▸ List.mem_singleton_self _), rfl⟩
    case isFalse =>
        obtain ⟨earlierName, earlier, isName⟩ := asked.given other name held known
        exact ⟨earlierName, List.mem_append_left _ earlier, isName⟩

theorem Asked.step (asked : Asked events accounts)
    (stepTo : accounts.step event = some after) : Asked (events ++ [event]) after := by
  unfold UserAccounts.step at stepTo
  cases event with
  | login call given =>
      rw [Option.ite_none_left_eq_some, not_or] at stepTo
      obtain ⟨⟨new, -⟩, same⟩ := stepTo
      obtain rfl := Option.some.inj same
      exact asked.login new
  | insert call newId =>
      dsimp only at stepTo
      split at stepTo
      case h_2 => cases stepTo
      case h_1 username received =>
          rw [Option.ite_none_left_eq_some] at stepTo
          obtain ⟨-, stepTo⟩ := stepTo
          split at stepTo
          case isTrue =>
              obtain rfl := Option.some.inj stepTo
              exact asked.pass received nofun
          case isFalse =>
              split at stepTo
              all_goals
                obtain rfl := Option.some.inj stepTo
                exact asked.pass received nofun
  | select call =>
      dsimp only at stepTo
      split at stepTo
      case h_2 => cases stepTo
      case h_1 username conflicted =>
          split at stepTo
          all_goals
            obtain rfl := Option.some.inj stepTo
            exact asked.pass conflicted nofun
  | commit call =>
      dsimp only at stepTo
      split at stepTo
      case h_1 username id inserted =>
          obtain rfl := Option.some.inj stepTo
          have passed : Asked (events ++ [.commit call])
              (accounts.goto call username (.answered ⟨id, username⟩)) :=
            asked.pass inserted nofun
          exact ⟨passed.listed, passed.given⟩
      case h_2 username id found =>
          obtain rfl := Option.some.inj stepTo
          exact asked.pass found nofun
      case h_3 => cases stepTo
  | abort call =>
      dsimp only at stepTo
      split at stepTo
      case h_2 => cases stepTo
      case h_1 username stage found =>
          split at stepTo
          case h_1 => cases stepTo
          case h_2 =>
              obtain rfl := Option.some.inj stepTo
              exact asked.pass found nofun

theorem asked_of_run (run : Run UserAccounts.step Anything empty events accounts) :
    Asked events accounts := by
  induction run with
  | nil => exact ⟨fun _ _ listed => (by cases listed), fun _ _ _ found => (by cases found)⟩
  | snoc _ _ stepTo ih => exact ih.step stepTo

theorem answer?_eq_some_iff {user : UserOut} : accounts.answer? call = some user ↔
    ∃ name, accounts.logins.get? call = some (name, .answered user) := by
  unfold answer?
  split
  case h_1 name answered found => simp [found]
  case h_2 other =>
      constructor
      · exact nofun
      · rintro ⟨name, found⟩
        exact absurd found (other name user)

end Names

end UserAccounts

/-- However logins interleave and fail, those that are answered get the same id
if and only if they gave the same name up to case; every answer is the account of
the name that the login gave, which is in the table; and no login finds its account
gone between its two statements. -/
theorem logins_share_accounts {events : List LoginEvent} {accounts : UserAccounts}
    (run : Run UserAccounts.step Anything UserAccounts.empty events accounts) :
    (∀ one other given another user account,
      .login one given ∈ events → accounts.answer? one = some user →
      .login other another ∈ events → accounts.answer? other = some account →
      (user.id = account.id ↔ SameUpToCase given another)) ∧
      (∀ call user, accounts.answer? call = some user →
        ∃ given, .login call given ∈ events ∧ user.username = normalise given ∧
          accounts.rows.get? user.username = some user.id) ∧
      ∀ call name, accounts.logins.get? call ≠ some (name, .vanished) := by
  have sound : accounts.Sound :=
    run.invariant UserAccounts.sound_empty fun _ _ _ before _ stepTo => before.step stepTo
  have asked : UserAccounts.Asked events accounts := UserAccounts.asked_of_run run
  have stored : ∀ call given user, .login call given ∈ events →
      accounts.answer? call = some user →
      user.username = normalise given ∧ accounts.rows.get? (normalise given) = some user.id := by
    intro call given user listed answered
    obtain ⟨name, found⟩ := UserAccounts.answer?_eq_some_iff.mp answered
    obtain ⟨stage, known⟩ := asked.listed call given listed
    obtain ⟨rfl, -⟩ := Prod.mk.inj (Option.some.inj (found.symm.trans known))
    exact sound.settled call _ _ found
  refine ⟨?_, ?_, fun call name found => sound.settled call name _ found⟩
  · intro one other given another user account listed answered listed' answered'
    have first := (stored one given user listed answered).2
    have second := (stored other another account listed' answered').2
    rw [← normalise_eq_iff]
    constructor
    · intro same
      exact sound.distinct _ _ user.id first (same ▸ second)
    · intro same
      rw [same] at first
      exact Option.some.inj (first.symm.trans second)
  · intro call user answered
    obtain ⟨name, found⟩ := UserAccounts.answer?_eq_some_iff.mp answered
    obtain ⟨given, listed, -⟩ := asked.given call name _ found
    obtain ⟨isName, row⟩ := stored call given user listed answered
    exact ⟨given, listed, isName, isName ▸ row⟩

/-- Two first logins race, and the loser reads the account of the winner. -/
def racingLogins : List LoginEvent :=
  [.login 1 "Ada", .login 2 "ada", .insert 1 7, .commit 1, .insert 2 8, .select 2, .commit 2]

theorem logins_share_accounts_racing :
    ∃ accounts : UserAccounts,
      accounts.answer? 1 = some ⟨7, "ada"⟩ ∧
      ∃ user, accounts.answer? 2 = some user ∧ user.id = 7 := by
  obtain ⟨accounts, executed, first, second⟩ := @exists_of_exec _ _ UserAccounts.step Anything
    UserAccounts.empty _ (fun accounts =>
      accounts.answer? 1 = some ⟨7, "ada"⟩ ∧ accounts.answer? 2 = some ⟨7, "ada"⟩) _ racingLogins
    (by decide +kernel)
  have sameName : SameUpToCase "ada" "Ada" := normalise_eq_iff.mp (by decide +kernel)
  have shared := (logins_share_accounts (run_of_exec executed)).1 2 1 "ada" "Ada" _ _
    (by decide) second (by decide) first
  exact ⟨accounts, first, _, second, shared.mpr sameName⟩

end GeoTrack
