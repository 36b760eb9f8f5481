import ReadThrough.Proofs.GroupTraffic
import ReadThrough.Proofs.ShardContents

/-! One get of a group, with no other get in between. A lookup that finds nothing changes nothing,
and after it only a value of the loader is brought into the shard. So a get that fails, or that a
peer answers, leaves the shard as it was. The loader is called where nothing else gave a value,
and then its outcome is the outcome of the get. -/

namespace ReadThrough

/-- Only a lookup that finds its key moves, counts or drops anything. -/
theorem Cache.get_of_missing {α : Type} [ByteSized α] {cache after : Cache α} {key : String}
    {dropped : Evicted α} (done : cache.get key = .ok (none, dropped, after)) :
    dropped = [] ∧ after = cache := by
  unfold get at done
  cases inMain : cache.main.slot? key with
  | some slot =>
    rw [inMain] at done
    obtain ⟨main, _, done⟩ := exists_ok_of_bind done
    obtain ⟨value, _, done⟩ := exists_ok_of_bind done
    nomatch done
  | none =>
    cases inHistory : cache.history.slot? key with
    | none =>
      simp only [inMain, inHistory, Except.ok.injEq, Prod.mk.injEq, true_and] at done
      exact ⟨done.1.symm, done.2.symm⟩
    | some slot =>
      simp only [inMain, inHistory] at done
      obtain ⟨value, _, done⟩ := exists_ok_of_bind done
      split at done
      next =>
        obtain ⟨promoted, _, done⟩ := exists_ok_of_bind done
        nomatch done
      next =>
        obtain ⟨history, _, done⟩ := exists_ok_of_bind done
        nomatch done

theorem Shard.get_of_missing {shard : Shard} {key : String} (missing : (shard.get key).1 = none) :
    (shard.get key).2 = shard := by
  unfold get at missing ⊢
  cases built : shard.cache with
  | none => rfl
  | some cache =>
    simp only [built] at missing ⊢
    cases done : cache.get key with
    | error fault => rfl
    | ok outcome =>
      obtain ⟨value, dropped, after⟩ := outcome
      obtain rfl : value = none := by simpa only [done] using missing
      obtain ⟨rfl, rfl⟩ := Cache.get_of_missing done
      simp only [keep, ← built]
      rfl

namespace Group

/-- A get that has come to a stage with nothing in between, what it did on the way, and the group
as it is then. -/
inductive Course (key : String) (group : Group) : Stage → List Deed → Group → Prop where
  | start : Course key group (.ofStarted (group.start key).1) [] (group.start key).2
  | move {stage next : Stage} {deeds more : List Deed} {current after : Group}
      (course : Course key group stage deeds current)
      (moves : Moves key current stage more after next) :
      Course key group next (more ++ deeds) after

variable {group after : Group} {key : String} {stage : Stage} {deeds : List Deed}

/-- A get for a key that the shard does not find. -/
structure Missed (key : String) (group : Group) : Prop where
  filled : key.isEmpty = false
  missing : (group.shard.get key).1 = none

/-- What a get did before it calls the loader: it asked nobody, or in vain. -/
inductive Unanswered (key : String) : List Deed → Prop where
  | alone : Unanswered key []
  | failed (error : FetchError) : Unanswered key [.answered key (.error error), .asked key]

/-- The ways in which a get ends, and the shard that it leaves. -/
inductive Ending (key : String) (group : Group) : Got → List Deed → Shard → Prop where
  | refused (empty : key.isEmpty = true) :
      Ending key group (.error .keyRequired) [] group.shard
  | found {value : Payload} (found : (group.shard.get key).1 = some value) :
      Ending key group (.ok value) [] (group.shard.get key).2
  | answered (missed : Missed key group) (value : Payload) :
      Ending key group (.ok value) [.answered key (.ok value), .asked key] group.shard
  | given {before : List Deed} (missed : Missed key group) (unanswered : Unanswered key before)
      (value : Payload) :
      Ending key group (.ok value) (.loaded key (.ok value) :: .called key :: before)
        (group.shard.add key value)
  | failed {before : List Deed} (missed : Missed key group) (unanswered : Unanswered key before)
      (text : String) :
      Ending key group (.error (.loaderFailed text))
        (.loaded key (.error text) :: .called key :: before) group.shard

/-- How a get came to a stage. -/
def Arrived (key : String) (group : Group) (deeds : List Deed) (shard : Shard) : Stage → Prop
  | .missing => Missed key group ∧ deeds = [] ∧ shard = group.shard
  | .asking => Missed key group ∧ deeds = [.asked key] ∧ shard = group.shard
  | .unanswered => Missed key group ∧ Unanswered key deeds ∧ shard = group.shard
  | .loading => Missed key group ∧ shard = group.shard ∧
      ∃ before, Unanswered key before ∧ deeds = .called key :: before
  | .done got => Ending key group got deeds shard

theorem start_arrived (group : Group) (key : String) :
    Arrived key group [] (group.start key).2.shard (.ofStarted (group.start key).1) := by
  cases empty : key.isEmpty with
  | true =>
    rw [start_empty group empty]
    exact Ending.refused empty
  | false =>
    rcases group.start_cases key with
      refused | ⟨value, found, hit, shard⟩ | ⟨missing, missed, shard⟩
    · have fails := (group.start_stage key).2.2
      rw [refused, empty] at fails
      nomatch fails
    · rw [hit, shard]
      exact Ending.found found
    · rw [missed, shard]
      exact ⟨⟨empty, missing⟩, rfl, Shard.get_of_missing missing⟩

theorem Moves.arrived {next : Stage} {more : List Deed} {current : Group}
    (moves : Moves key current stage more after next)
    (arrived : Arrived key group deeds current.shard stage) :
    Arrived key group (more ++ deeds) after.shard next := by
  cases moves with
  | alone =>
    obtain ⟨missed, rfl, same⟩ := arrived
    exact ⟨missed, .alone, same⟩
  | ask =>
    obtain ⟨missed, rfl, same⟩ := arrived
    exact ⟨missed, rfl, same⟩
  | answer fetched =>
    obtain ⟨missed, rfl, same⟩ := arrived
    cases fetched with
    | ok value => exact same ▸ Ending.answered missed value
    | error error => exact ⟨missed, .failed error, same⟩
  | call =>
    obtain ⟨missed, unanswered, same⟩ := arrived
    exact ⟨missed, same, deeds, unanswered, rfl⟩
  | keep loaded =>
    obtain ⟨missed, same, before, unanswered, rfl⟩ := arrived
    cases loaded with
    | ok value =>
      have given := Ending.given missed unanswered value
      rw [← same] at given
      exact given
    | error text => exact same ▸ Ending.failed missed unanswered text

theorem Course.arrived (course : Course key group stage deeds after) :
    Arrived key group deeds after.shard stage := by
  induction course with
  | start => exact group.start_arrived key
  | move _ moves ih => exact moves.arrived ih

theorem Missed.key_ne (missed : Missed key group) : key ≠ "" := by
  rintro rfl
  exact absurd missed.filled (by decide)

/-- Until the loader is called no value and no outcome of the loader is there. -/
theorem Unanswered.silent (unanswered : Unanswered key deeds) :
    (∀ value, .answered key (.ok value) ∉ deeds) ∧ ∀ loaded, .loaded key loaded ∉ deeds := by
  cases unanswered with
  | alone => exact ⟨nofun, nofun⟩
  | failed error => simp

theorem Unanswered.untold (unanswered : Unanswered key deeds) (loaded : Except String Payload)
    (value : Payload) : .answered key (.ok value) ∉ .loaded key loaded :: .called key :: deeds := by
  have before := unanswered.silent.1 value
  simpa using before

theorem Unanswered.loaded_eq (unanswered : Unanswered key deeds)
    {loaded other : Except String Payload}
    (member : .loaded key other ∈ .loaded key loaded :: .called key :: deeds) : other = loaded := by
  have before := unanswered.silent.2 other
  simpa [before] using member

theorem Unanswered.one_call (unanswered : Unanswered key deeds) (loaded : Except String Payload) :
    (.loaded key loaded :: .called key :: deeds).countP Deed.isCall = 1 := by
  cases unanswered <;> rfl

/-- A get for which the loader has come back called it once, with reason, and keeps to what it
came to. -/
theorem Missed.loader_called {before : List Deed} {loaded : Except String Payload}
    (missed : Missed key group) (unanswered : Unanswered key before)
    (did : deeds = .loaded key loaded :: .called key :: before) :
    (.called key ∈ deeds ↔ key ≠ "" ∧ (group.shard.get key).1 = none ∧
      ∀ value, .answered key (.ok value) ∉ deeds) ∧
    deeds.countP Deed.isCall ≤ 1 ∧
    (.called key ∈ deeds → ∃ other, .loaded key other ∈ deeds) ∧
    ∀ other, .loaded key other ∈ deeds →
      Except.mapError Error.loaderFailed loaded = other.mapError .loaderFailed := by
  subst did
  have called : .called key ∈ .loaded key loaded :: .called key :: before :=
    List.mem_cons_of_mem _ List.mem_cons_self
  exact ⟨⟨fun _ => ⟨missed.key_ne, missed.missing, unanswered.untold loaded⟩, fun _ => called⟩,
    Nat.le_of_eq (unanswered.one_call loaded), fun _ => ⟨loaded, List.mem_cons_self⟩,
    fun other member => by rw [unanswered.loaded_eq member]⟩

theorem Course.load {current : Group} (course : Course key group .unanswered deeds current) :
    Course key group (.done (current.load key).1)
      (.loaded key (current.loader key) :: .called key :: deeds) (current.load key).2 :=
  (course.move .call).move (.keep (current.loader key))

/-- A get that is done at once, whatever asking for its key comes to, is one of these. -/
theorem get_course (group : Group) (key : String) (fetched : Option Fetched) :
    ∃ deeds, Course key group (.done (group.get key fetched).1) deeds
      (group.get key fetched).2 := by
  have begun : Course key group _ [] _ := .start
  unfold Group.get
  generalize group.start key = first at begun ⊢
  obtain ⟨started, looked⟩ := first
  cases started with
  | refused => exact ⟨_, begun⟩
  | found value => exact ⟨_, begun⟩
  | missing =>
    cases fetched with
    | none => exact ⟨_, (begun.move .alone).load⟩
    | some fetched =>
      have told := (begun.move .ask).move (.answer fetched)
      cases fetched with
      | ok value => exact ⟨_, told⟩
      | error error => exact ⟨_, told.load⟩

/-- A get with no other get in between, from whatever state of the group, whomever the picker
picks and whatever a peer and the loader answer. If it fails, or if a peer answered it, the shard
is the same as before in all its parts. The loader is called, and once, exactly if there is a key
that the shard does not find and that no peer gave a value for; what the get comes to is then what
the loader came to. -/
theorem lone_get (group : Group) (key : String) :
    (∀ fetched, ∃ deeds, Course key group (.done (group.get key fetched).1) deeds
      (group.get key fetched).2) ∧
    ∀ got deeds after, Course key group (.done got) deeds after →
      (((∃ error, got = .error error) ∨ ∃ value, .answered key (.ok value) ∈ deeds) →
        after.shard = group.shard) ∧
      (∀ value, .answered key (.ok value) ∈ deeds → got = .ok value) ∧
      (.called key ∈ deeds ↔ key ≠ "" ∧ (group.shard.get key).1 = none ∧
        ∀ value, .answered key (.ok value) ∉ deeds) ∧
      deeds.countP Deed.isCall ≤ 1 ∧
      (.called key ∈ deeds → ∃ loaded, .loaded key loaded ∈ deeds) ∧
      ∀ loaded, .loaded key loaded ∈ deeds → got = loaded.mapError .loaderFailed := by
  refine ⟨group.get_course key, fun got deeds after course => ?_⟩
  have arrived : Ending key group got deeds after.shard := course.arrived
  generalize after.shard = shard at arrived
  -- in the last two endings the loader has come back, with a value or without
  cases arrived with
  | refused empty =>
    have noKey : key = "" := String.isEmpty_iff.mp empty
    exact ⟨fun _ => rfl, nofun, ⟨nofun, fun ⟨filled, _⟩ => absurd noKey filled⟩, Nat.zero_le _,
      nofun, nofun⟩
  | found hit =>
    refine ⟨?_, nofun, ⟨nofun, fun ⟨_, missing, _⟩ => ?_⟩, Nat.zero_le _, nofun, nofun⟩
    · rintro (⟨error, failed⟩ | ⟨other, told⟩)
      · nomatch failed
      · nomatch told
    · rw [hit] at missing
      nomatch missing
  | answered missed value =>
    have told {other : Payload}
        (member : .answered key (.ok other) ∈ [Deed.answered key (.ok value), .asked key]) :
        other = value := by simpa using member
    have uncalled : .called key ∉ [Deed.answered key (.ok value), .asked key] := by simp
    have unloaded (loaded : Except String Payload) :
        .loaded key loaded ∉ [Deed.answered key (.ok value), .asked key] := by simp
    refine ⟨fun _ => rfl, fun other member => by rw [told member],
      ⟨fun called => absurd called uncalled, ?_⟩, Nat.zero_le _,
      fun called => absurd called uncalled, fun loaded member => absurd member (unloaded loaded)⟩
    rintro ⟨_, _, untold⟩
    exact absurd List.mem_cons_self (untold value)
  | given missed unanswered value =>
    have untold := unanswered.untold (.ok value)
    obtain ⟨called, once, came, same⟩ := missed.loader_called unanswered rfl
    refine ⟨?_, fun other member => absurd member (untold other), called, once, came, same⟩
    rintro (⟨error, failed⟩ | ⟨other, told⟩)
    · nomatch failed
    · exact absurd told (untold other)
  | failed missed unanswered text =>
    have untold := unanswered.untold (.error text)
    obtain ⟨called, once, came, same⟩ := missed.loader_called unanswered rfl
    exact ⟨fun _ => rfl, fun other member => absurd member (untold other), called, once, came, same⟩

end Group

end ReadThrough
