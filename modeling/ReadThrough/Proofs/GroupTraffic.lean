import ReadThrough.Group.Basic
import Mathlib

/-! Gets of one group that overlap at any point. A get counts and looks into the shard; if it
finds nothing it asks a peer, or nobody, and without an answer it calls the loader. Between these
steps it waits and other gets go on. Whom the picker picks, what a peer answers and what the
loader gives may change from get to get, so any of it may happen. However the steps fall, the
counters account for every get, for every call of the loader and for every question to a peer. -/

namespace ReadThrough.Group

/-- How far a get has come. -/
inductive Stage where
  | missing
  | asking
  | unanswered
  | loading
  | done (got : Got)

namespace Stage

/-- Where a get is after its first step. -/
def ofStarted : Started → Stage
  | .refused => .done (.error .keyRequired)
  | .found value => .done (.ok value)
  | .missing => .missing

/-- Where a get is once it has been told what its question came to. -/
def ofFetched : Fetched → Stage
  | .ok value => .done (.ok value)
  | .error _ => .unanswered

def isWaiting : Stage → Bool
  | .done _ => false
  | _ => true

def isFailed : Stage → Bool
  | .done (.error _) => true
  | _ => false

def isAsking : Stage → Bool
  | .asking => true
  | _ => false

def isLoading : Stage → Bool
  | .loading => true
  | _ => false

end Stage

/-- A get that is under way or has come to its end. -/
structure Flight where
  key : String
  stage : Stage

/-- What passes between the gets of a group and the world around it. -/
inductive Deed where
  | asked (key : String)
  | answered (key : String) (fetched : Fetched)
  | called (key : String)
  | loaded (key : String) (loaded : Except String Payload)

namespace Deed

def isQuestion : Deed → Bool
  | .asked _ => true
  | _ => false

def isCall : Deed → Bool
  | .called _ => true
  | _ => false

/-- A call of the loader that came to nothing. -/
def isFailure : Deed → Bool
  | .loaded _ (.error _) => true
  | _ => false

end Deed

/-- What one get does from one wait to the next. -/
inductive Moves (key : String) : Group → Stage → List Deed → Group → Stage → Prop where
  | alone {group} : Moves key group .missing [] group .unanswered
  | ask {group} : Moves key group .missing [.asked key] group .asking
  | answer {group} (fetched : Fetched) :
      Moves key group .asking [.answered key fetched] (group.finishFetch fetched)
        (.ofFetched fetched)
  | call {group} : Moves key group .unanswered [.called key] group .loading
  | keep {group} (loaded : Except String Payload) :
      Moves key group .loading [.loaded key loaded] (group.finishLoad key loaded)
        (.done (loaded.mapError .loaderFailed))

/-- A group with its gets, those that came to an end included, and all they did, the latest
first. -/
structure Traffic where
  group : Group
  flights : List Flight := []
  journal : List Deed := []

namespace Traffic

inductive Next : Traffic → Traffic → Prop where
  | start {group : Group} {flights : List Flight} {journal : List Deed} (key : String) :
      Next ⟨group, flights, journal⟩
        ⟨(group.start key).2, ⟨key, .ofStarted (group.start key).1⟩ :: flights, journal⟩
  | move {group after : Group} {front behind : List Flight} {journal deeds : List Deed}
      {key : String} {stage next : Stage} (moves : Moves key group stage deeds after next) :
      Next ⟨group, front ++ ⟨key, stage⟩ :: behind, journal⟩
        ⟨after, front ++ ⟨key, next⟩ :: behind, deeds ++ journal⟩

/-- Any number of steps, of any gets in any order. -/
def Leads : Traffic → Traffic → Prop :=
  Relation.ReflTransGen Next

/-- Gets that returned an error. One for the empty key is refused and not counted. -/
def failed (traffic : Traffic) : Nat :=
  traffic.flights.countP fun flight => !flight.key.isEmpty && flight.stage.isFailed

/-- Gets that are still under way. -/
def waiting (traffic : Traffic) : Nat :=
  traffic.flights.countP (·.stage.isWaiting)

/-- Questions that peers have not answered yet. -/
def asking (traffic : Traffic) : Nat :=
  traffic.flights.countP (·.stage.isAsking)

/-- Calls of the loader that have not come back yet. -/
def loading (traffic : Traffic) : Nat :=
  traffic.flights.countP (·.stage.isLoading)

/-- The counters account for all gets, for all calls of the loader and for all questions. -/
structure Balanced (traffic : Traffic) : Prop where
  filled : ∀ flight ∈ traffic.flights,
    flight.stage.isWaiting = true → flight.key.isEmpty = false
  gets : traffic.group.counters.gets = traffic.group.counters.cacheHits +
    traffic.group.counters.peerLoads + traffic.group.counters.localLoads + traffic.failed +
    traffic.waiting
  calls : traffic.journal.countP Deed.isCall = traffic.group.counters.localLoads +
    traffic.journal.countP Deed.isFailure + traffic.loading
  questions : traffic.journal.countP Deed.isQuestion = traffic.group.counters.peerLoads +
    traffic.group.counters.peerErrors + traffic.asking

end Traffic

variable {group after : Group} {key : String} {stage next : Stage} {deeds : List Deed}

theorem start_empty (group : Group) (empty : key.isEmpty = true) :
    group.start key = (.refused, group) := by
  rw [start, if_pos empty]

/-- A get is counted once it has a key, and counted as a hit unless it has to go on. -/
theorem start_counters (group : Group) (filled : key.isEmpty = false) :
    (group.start key).2.counters.gets = group.counters.gets + 1 ∧
    (group.start key).2.counters.cacheHits +
        (Stage.ofStarted (group.start key).1).isWaiting.toNat = group.counters.cacheHits + 1 ∧
    (group.start key).2.counters.peerLoads = group.counters.peerLoads ∧
    (group.start key).2.counters.peerErrors = group.counters.peerErrors ∧
    (group.start key).2.counters.localLoads = group.counters.localLoads := by
  rw [start, if_neg (Bool.eq_false_iff.mp filled)]
  split <;> exact ⟨rfl, rfl, rfl, rfl, rfl⟩

/-- The first step leads neither to a peer nor to the loader, and fails for the empty key only. -/
theorem start_stage (group : Group) (key : String) :
    (Stage.ofStarted (group.start key).1).isAsking = false ∧
    (Stage.ofStarted (group.start key).1).isLoading = false ∧
    (Stage.ofStarted (group.start key).1).isFailed = key.isEmpty := by
  unfold start
  split
  next empty => exact ⟨rfl, rfl, empty.symm⟩
  next filled =>
    have filled : key.isEmpty = false := Bool.eq_false_iff.mpr filled
    split <;> exact ⟨rfl, rfl, filled.symm⟩

theorem Moves.waiting (moves : Moves key group stage deeds after next) :
    stage.isWaiting = true ∧ stage.isFailed = false := by
  cases moves <;> exact ⟨rfl, rfl⟩

/-- A get that moves on hands its place in the account on: to a counter, to the failures, or to
the stage that it comes to. -/
theorem Moves.gets (moves : Moves key group stage deeds after next) :
    after.counters.gets = group.counters.gets ∧
    after.counters.cacheHits = group.counters.cacheHits ∧
    after.counters.peerLoads + after.counters.localLoads + next.isFailed.toNat +
      next.isWaiting.toNat = group.counters.peerLoads + group.counters.localLoads + 1 := by
  cases moves with
  | alone | ask | call => exact ⟨rfl, rfl, rfl⟩
  | answer fetched =>
    cases fetched with
    | ok value =>
      exact ⟨rfl, rfl, Nat.add_right_comm group.counters.peerLoads 1 group.counters.localLoads⟩
    | error error => exact ⟨rfl, rfl, rfl⟩
  | keep loaded => cases loaded <;> exact ⟨rfl, rfl, rfl⟩

theorem Moves.calls (moves : Moves key group stage deeds after next) :
    deeds.countP Deed.isCall + group.counters.localLoads + stage.isLoading.toNat =
      after.counters.localLoads + deeds.countP Deed.isFailure + next.isLoading.toNat := by
  cases moves with
  | alone | ask => simp [Deed.isCall, Deed.isFailure, Stage.isLoading]
  | answer fetched =>
    cases fetched <;>
      simp [Deed.isCall, Deed.isFailure, finishFetch, Stage.ofFetched, Stage.isLoading]
  | call => simp [Deed.isCall, Deed.isFailure, Stage.isLoading, Nat.add_comm]
  | keep loaded =>
    cases loaded <;> simp [Deed.isCall, Deed.isFailure, finishLoad, Stage.isLoading]

theorem Moves.questions (moves : Moves key group stage deeds after next) :
    deeds.countP Deed.isQuestion + group.counters.peerLoads + group.counters.peerErrors +
        stage.isAsking.toNat =
      after.counters.peerLoads + after.counters.peerErrors + next.isAsking.toNat := by
  cases moves with
  | alone | call => simp [Deed.isQuestion, Stage.isAsking]
  | ask => simp [Deed.isQuestion, Stage.isAsking, Nat.add_comm 1, Nat.add_right_comm]
  | answer fetched =>
    cases fetched <;>
      simp [Deed.isQuestion, finishFetch, Stage.ofFetched, Stage.isAsking, Nat.add_right_comm,
        Nat.add_assoc]
  | keep loaded =>
    cases loaded <;> simp [Deed.isQuestion, finishLoad, Stage.isAsking]

section

variable (p : Flight → Bool) (flights front behind : List Flight) (key : String)
  (stage next : Stage)

theorem countP_started : (⟨key, stage⟩ :: flights).countP p =
    flights.countP p + (p ⟨key, stage⟩).toNat := by
  rw [List.countP_cons]
  cases p ⟨key, stage⟩ <;> rfl

/-- Where one get comes to another stage, a count of gets changes by that get alone. -/
theorem countP_moved : (front ++ ⟨key, next⟩ :: behind).countP p + (p ⟨key, stage⟩).toNat =
    (front ++ ⟨key, stage⟩ :: behind).countP p + (p ⟨key, next⟩).toNat := by
  simp only [List.countP_append, countP_started]
  omega

end

namespace Traffic

variable {before later : Traffic} {flights front behind : List Flight} {journal : List Deed}

theorem Balanced.start (balanced : Balanced ⟨group, flights, journal⟩) (key : String) :
    Balanced ⟨(group.start key).2, ⟨key, .ofStarted (group.start key).1⟩ :: flights, journal⟩ := by
  obtain ⟨filled, gets, calls, questions⟩ := balanced
  obtain ⟨asks, loads, fails⟩ := group.start_stage key
  cases empty : key.isEmpty with
  | true =>
    rw [start_empty group empty] at asks loads fails ⊢
    refine ⟨List.forall_mem_cons.mpr ⟨nofun, filled⟩, ?_, calls, questions⟩
    simpa [failed, waiting, countP_started, empty, Stage.ofStarted, Stage.isWaiting] using gets
  | false =>
    obtain ⟨counted, hits, peerLoads, peerErrors, localLoads⟩ := group.start_counters empty
    refine ⟨List.forall_mem_cons.mpr ⟨fun _ => empty, filled⟩, ?_, ?_, ?_⟩
    · simp only [failed, waiting, countP_started, fails, empty] at gets ⊢
      simp
      omega
    · simp only [loading, countP_started, loads] at calls ⊢
      simp
      omega
    · simp only [asking, countP_started, asks] at questions ⊢
      simp
      omega

theorem Balanced.move (balanced : Balanced ⟨group, front ++ ⟨key, stage⟩ :: behind, journal⟩)
    (moves : Moves key group stage deeds after next) :
    Balanced ⟨after, front ++ ⟨key, next⟩ :: behind, deeds ++ journal⟩ := by
  -- every sum loses the place of the get at `stage` and gains the one at `next`
  obtain ⟨filled, gets, calls, questions⟩ := balanced
  obtain ⟨waits, unfailed⟩ := moves.waiting
  have ⟨inFront, rest⟩ := List.forall_mem_append.mp filled
  have ⟨own, others⟩ := List.forall_mem_cons.mp rest
  have some : key.isEmpty = false := own waits
  have entered (p : Deed → Bool) :
      (deeds ++ journal).countP p = deeds.countP p + journal.countP p := List.countP_append
  refine ⟨?_, ?_, ?_, ?_⟩
  · exact List.forall_mem_append.mpr ⟨inFront, List.forall_mem_cons.mpr ⟨fun _ => some, others⟩⟩
  · obtain ⟨counted, hits, handed⟩ := moves.gets
    have failures := countP_moved (fun flight => !flight.key.isEmpty && flight.stage.isFailed)
      front behind key stage next
    have waiters := countP_moved (·.stage.isWaiting) front behind key stage next
    simp only [some, unfailed, waits, Bool.not_false, Bool.true_and, Bool.toNat_true,
      Bool.toNat_false] at failures waiters
    simp only [failed, waiting] at gets ⊢
    omega
  · have handed := moves.calls
    have loaders := countP_moved (·.stage.isLoading) front behind key stage next
    simp only [loading, entered] at calls loaders ⊢
    omega
  · have handed := moves.questions
    have askers := countP_moved (·.stage.isAsking) front behind key stage next
    simp only [asking, entered] at questions askers ⊢
    omega

theorem Balanced.step (balanced : before.Balanced) (step : before.Next later) :
    later.Balanced := by
  cases step with
  | start key => exact balanced.start key
  | move moves => exact balanced.move moves

theorem Balanced.leads (balanced : before.Balanced) (leads : before.Leads later) :
    later.Balanced := by
  induction leads with
  | refl => exact balanced
  | tail _ step ih => exact ih.step step

theorem Next.head (moves : Moves key group stage deeds after next) :
    Next ⟨group, ⟨key, stage⟩ :: flights, journal⟩
      ⟨after, ⟨key, next⟩ :: flights, deeds ++ journal⟩ :=
  show Next ⟨group, [] ++ _, journal⟩ ⟨after, [] ++ _, deeds ++ journal⟩ from .move moves

theorem load_leads (group : Group) (key : String) (flights : List Flight) (journal : List Deed) :
    Leads ⟨group, ⟨key, .unanswered⟩ :: flights, journal⟩
      ⟨(group.load key).2, ⟨key, .done (group.load key).1⟩ :: flights,
        .loaded key (group.loader key) :: .called key :: journal⟩ :=
  .tail (.single (.head .call)) (.head (.keep (group.loader key)))

end Traffic

/-- A get that nothing overlaps is one run of these steps. -/
theorem get_leads (group : Group) (key : String) (fetched : Option Fetched)
    (flights : List Flight) (journal : List Deed) : ∃ deeds, Traffic.Leads
      ⟨group, flights, journal⟩ ⟨(group.get key fetched).2,
        ⟨key, .done (group.get key fetched).1⟩ :: flights, deeds ++ journal⟩ := by
  have begun : Traffic.Next ⟨group, flights, journal⟩ _ := .start key
  unfold Group.get
  generalize group.start key = first at begun ⊢
  obtain ⟨started, looked⟩ := first
  cases started with
  | refused => exact ⟨[], .single begun⟩
  | found value => exact ⟨[], .single begun⟩
  | missing =>
    cases fetched with
    | none =>
      exact ⟨[.loaded key (looked.loader key), .called key],
        .trans (.tail (.single begun) (.head .alone)) (Traffic.load_leads looked key _ _)⟩
    | some fetched =>
      have asked := Relation.ReflTransGen.single begun |>.tail (.head .ask)
        |>.tail (.head (.answer fetched))
      cases fetched with
      | ok value => exact ⟨[.answered key (.ok value), .asked key], asked⟩
      | error error =>
        let told := looked.finishFetch (.error error)
        exact ⟨[.loaded key (told.loader key), .called key, .answered key (.error error),
          .asked key], asked.trans (Traffic.load_leads told key _ _)⟩

/-- At every moment of gets that overlap, and however the picker, the peers and the loader
decide, every counted get was a hit, was answered by a peer, by the loader or with an error, or
is still under way; every call of the loader and every question has come to something or is
still running. A get for the empty key changes nothing at all. -/
theorem counters_conserved {traffic : Traffic} (fresh : group.counters = {})
    (leads : Traffic.Leads ⟨group, [], []⟩ traffic) :
    traffic.group.counters.gets = traffic.group.counters.cacheHits +
      traffic.group.counters.peerLoads + traffic.group.counters.localLoads + traffic.failed +
      traffic.waiting ∧
    traffic.journal.countP Deed.isCall = traffic.group.counters.localLoads +
      traffic.journal.countP Deed.isFailure + traffic.loading ∧
    traffic.journal.countP Deed.isQuestion = traffic.group.counters.peerLoads +
      traffic.group.counters.peerErrors + traffic.asking ∧
    ∀ key, key.isEmpty = true → traffic.group.start key = (.refused, traffic.group) := by
  have initial : Traffic.Balanced ⟨group, [], []⟩ := by
    constructor <;> simp [fresh, Traffic.failed, Traffic.waiting, Traffic.loading, Traffic.asking]
  have balanced := initial.leads leads
  exact ⟨balanced.gets, balanced.calls, balanced.questions,
    fun _ empty => traffic.group.start_empty empty⟩

/-- Three gets of one key. The first one never comes further than its first look; the second
one asks a peer in vain and calls the loader; the third one finds what the second one left. -/
theorem counters_conserved_overlapping :
    let group : Group := { name := "g", loader := fun _ => .error "gone", shard := .lru 9 }
    ∃ traffic, Traffic.Leads ⟨group, [], []⟩ traffic ∧ traffic.group.counters = ⟨3, 1, 0, 1, 1⟩ ∧
      traffic.failed = 0 ∧ traffic.waiting = 1 ∧
      traffic.journal.countP Deed.isCall = 1 ∧ traffic.loading = 0 ∧
      traffic.group.counters.gets = traffic.group.counters.cacheHits +
        traffic.group.counters.peerLoads + traffic.group.counters.localLoads + traffic.failed +
        traffic.waiting := by
  intro group
  have leads := Relation.ReflTransGen.refl (r := Traffic.Next) (a := ⟨group, [], []⟩)
    |>.tail (.start "k") |>.tail (.start "k")
    |>.tail (.head .ask) |>.tail (.head (.answer (.error .body)))
    |>.tail (.head .call) |>.tail (.head (.keep (.ok (.ofText "v"))))
    |>.tail (.start "k")
  refine ⟨_, leads, by cbv, by cbv, by cbv, by cbv, by cbv, ?_⟩
  exact (counters_conserved rfl leads).1

end ReadThrough.Group
