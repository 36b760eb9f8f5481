import ReadThrough.Proofs.GroupTraffic
import ReadThrough.Proofs.ShardContents

/-! Where the values of a shard come from, when gets of its group overlap at any point and the
loader may give another value each time. What is held for a key is what the loader gave when a
call for that key last succeeded; what a peer gave is never kept. -/

namespace ReadThrough.Group

/-- The value that a deed brings into the shard for a key. -/
def Deed.gives (key : String) : Deed → Option Payload
  | .loaded sought (.ok value) => if sought = key then some value else none
  | _ => none

/-- The value that the loader gave for a key when a call for it last succeeded; the journal has
the latest deed first. -/
def latest? (journal : List Deed) (key : String) : Option Payload :=
  journal.findSome? (Deed.gives key)

theorem mem_of_latest? {journal : List Deed} {key : String} {value : Payload}
    (latest : latest? journal key = some value) : .loaded key (.ok value) ∈ journal := by
  obtain ⟨deed, member, gives⟩ := List.exists_of_findSome?_eq_some latest
  unfold Deed.gives at gives
  split at gives
  next sought given =>
    split at gives
    next same =>
      obtain rfl := Option.some.inj gives
      exact same ▸ member
    next => nomatch gives
  next => nomatch gives

/-- The shard holds for each key what the loader last gave for it. -/
def Traffic.Sourced (traffic : Traffic) : Prop :=
  traffic.group.shard.Keeps fun key value => latest? traffic.journal key = some value

variable {group after : Group} {flights front behind : List Flight} {journal deeds : List Deed}
  {key : String} {stage next : Stage} {lawful : String → Payload → Prop}

/-- A first step finds nothing but lawful values and leaves nothing else in the shard. -/
theorem keeps_start (keeps : group.shard.Keeps lawful) (key : String) :
    (∀ value, (group.start key).1 = .found value → lawful key value) ∧
      (group.start key).2.shard.Keeps lawful := by
  have ⟨found, kept⟩ := keeps.get key
  rcases group.start_cases key with refused | ⟨value, got, hit, shard⟩ | ⟨_, missing, shard⟩
  · rw [refused]
    exact ⟨nofun, keeps⟩
  · rw [hit, shard]
    refine ⟨fun other same => ?_, kept⟩
    obtain rfl := Started.found.inj same
    exact found value got
  · rw [missing, shard]
    exact ⟨nofun, kept⟩

namespace Traffic

theorem Sourced.move (sourced : Sourced ⟨group, front ++ ⟨key, stage⟩ :: behind, journal⟩)
    (moves : Moves key group stage deeds after next) :
    Sourced ⟨after, front ++ ⟨key, next⟩ :: behind, deeds ++ journal⟩ := by
  cases moves with
  | alone | ask | call => exact sourced
  | answer fetched => cases fetched <;> exact sourced
  | keep loaded =>
    cases loaded with
    | error text => exact sourced
    | ok value =>
      -- the value may be older than the one it replaces, but its call came back last
      refine Shard.Keeps.addTo sourced ?_ fun other held differs latest => ?_
      · have gives : Deed.gives key (.loaded key (.ok value)) = some value := if_pos rfl
        simp [latest?, gives]
      · have silent : Deed.gives other (.loaded key (.ok value)) = none := if_neg differs.symm
        simpa [latest?, silent] using latest

theorem Sourced.step {before later : Traffic} (sourced : before.Sourced)
    (step : before.Next later) : later.Sourced := by
  cases step with
  | start key => exact (keeps_start sourced key).2
  | move moves => exact sourced.move moves

theorem Sourced.leads {before later : Traffic} (sourced : before.Sourced)
    (leads : before.Leads later) : later.Sourced := by
  induction leads with
  | refl => exact sourced
  | tail _ step ih => exact ih.step step

end Traffic

/-- Whatever the loader, the picker and the peers answer and however gets overlap, an entry of
the shard, in either queue, is what the loader gave for its key when a call for it last
succeeded. A hit answers with that value, and nothing is held that the loader did not give. -/
theorem held_is_latest {traffic : Traffic} (fresh : group.shard.cache = none)
    (leads : Traffic.Leads ⟨group, [], []⟩ traffic) :
    (∀ key value, (key, value) ∈ traffic.group.shard.held →
      latest? traffic.journal key = some value) ∧
    (∀ key value, (traffic.group.start key).1 = .found value →
      latest? traffic.journal key = some value) ∧
    ∀ key value, (key, value) ∈ traffic.group.shard.held →
      .loaded key (.ok value) ∈ traffic.journal := by
  have initial : Traffic.Sourced ⟨group, [], []⟩ := Shard.keeps_of_fresh fresh
  have sourced := initial.leads leads
  have held (key : String) (value : Payload) (member : (key, value) ∈ traffic.group.shard.held) :
      latest? traffic.journal key = some value := sourced.held (key, value) member
  refine ⟨held, fun key => (keeps_start sourced key).1, fun key value member => ?_⟩
  exact mem_of_latest? (held key value member)

/-- A get is answered by a peer, of which nothing is kept. Then two gets of another key call the
loader, which gives them different values; the one that called last comes back first. -/
theorem held_is_latest_overtaken :
    let group : Group := { name := "g", loader := fun _ => .error "gone", shard := .lru 9 }
    ∃ traffic, Traffic.Leads ⟨group, [], []⟩ traffic ∧
      traffic.group.shard.held = [("k", .ofText "old")] ∧
      latest? traffic.journal "k" = some (.ofText "old") := by
  intro group
  have leads := Relation.ReflTransGen.refl (r := Traffic.Next) (a := ⟨group, [], []⟩)
    |>.tail (.start "l") |>.tail (.head .ask) |>.tail (.head (.answer (.ok (.ofText "far"))))
    |>.tail (.start "k") |>.tail (.head .alone) |>.tail (.head .call)
    |>.tail (.start "k") |>.tail (.head .alone) |>.tail (.head .call)
    |>.tail (.head (.keep (.ok (.ofText "new"))))
    |>.tail (show Traffic.Next ⟨_, [_] ++ _ :: _, _⟩ ⟨_, [_] ++ _ :: _, _⟩ from
      .move (.keep (.ok (.ofText "old"))))
  refine ⟨_, leads, by cbv, ?_⟩
  exact (held_is_latest rfl leads).1 "k" (.ofText "old") (by cbv; exact List.mem_cons_self)

end ReadThrough.Group
