import Mathlib
import ReadThrough.Http.Target
import ReadThrough.Proofs.Confinement

/-! Groups of different names do not notice each other, on nodes that ask each other below one
base path and keep their peers. Whatever is done in a cluster, step after step or overlapping at
any point: leave out all that is about other groups, and all requests for paths that name no
group. What is left goes on as before, with the same answers and the same counts. -/

namespace ReadThrough.Cluster

/-- The group that a path names below a base path. -/
def named? (base path : String) : Option String :=
  (PeerPath.parse (PeerPath.normalizeBase base) path).toOption.map (·.1)

/-- The group that a step is about; `none` for a request whose path names no group. -/
def Step.about? (base : String) : Step → Option String
  | .newGroup place _ _ | .register place _ | .get place _ | .getAll place _ => some place.group
  | .serve _ path => named? base path
  | .setPeers .. | .fetch .. => none

/-- Steps on nodes that leave their peers as they are. -/
def Step.KeepsPeers : Step → Prop
  | .newGroup .. | .register .. | .get .. | .getAll .. | .serve .. => True
  | .setPeers .. | .fetch .. => False

/-- What may happen in a cluster: a step or an HTTP request with its answer, the first look of a
get, or its way to the next stage. -/
inductive Deed where
  | step (step : Step) (answer : Answer)
  | request (node : Nat) (target : String) (response : Http.Response)
  | started (place : Place) (key : String) (started : Group.Started)
  | moved (place : Place) (key : String) (next : Stage)

def Deed.about? (base : String) : Deed → Option String
  | .step made _ => made.about? base
  | .request _ target _ => named? base (Http.targetPath target)
  | .started place _ _ | .moved place _ _ => some place.group

def Deed.KeepsPeers : Deed → Prop
  | .step made _ => made.KeepsPeers
  | _ => True

inductive Acts : Traffic → Deed → Traffic → Prop where
  | step {cluster after : Cluster} {flights : List Flight} {step : Step} {answer : Answer}
      (done : cluster.apply step = some (answer, after)) :
      Acts ⟨cluster, flights⟩ (.step step answer) ⟨after, flights⟩
  | request {cluster after : Cluster} {flights : List Flight} {node : Nat} {target : String}
      {served : Served} (done : cluster.serve node (Http.targetPath target) = some (served, after)) :
      Acts ⟨cluster, flights⟩ (.request node target (.ofServed served)) ⟨after, flights⟩
  | start {cluster after : Cluster} {flights : List Flight} {place : Place} {key : String}
      {started : Group.Started} (begun : cluster.start place key = some (started, after)) :
      Acts ⟨cluster, flights⟩ (.started place key started)
        ⟨after, ⟨place, key, .started started⟩ :: flights⟩
  | move {cluster after : Cluster} {front behind : List Flight} {place : Place} {key : String}
      {stage next : Stage}
      (moves : Moves (front ++ ⟨place, key, stage⟩ :: behind) place key cluster stage after next) :
      Acts ⟨cluster, front ++ ⟨place, key, stage⟩ :: behind⟩ (.moved place key next)
        ⟨after, front ++ ⟨place, key, next⟩ :: behind⟩

theorem Acts.apply_eq {cluster : Cluster} {flights : List Flight} {step : Step} {answer : Answer}
    {later : Traffic} (acts : Acts ⟨cluster, flights⟩ (.step step answer) later) :
    ∃ after, cluster.apply step = some (answer, after) ∧ later = ⟨after, flights⟩ := by
  cases acts with
  | step done => exact ⟨_, done, rfl⟩

/-- What each node tells about a group: its counters, what its shard holds and dropped, and how
often its loaders were called. -/
abbrev Report := List (Option (Counters × Shard.Stats) × Nat)

def report (cluster : Cluster) (name : String) : Report :=
  (List.range cluster.nodes.length).map fun node =>
    ((cluster.group? ⟨node, name⟩).map fun group => (group.counters, group.shard.stats),
      cluster.loads ⟨node, name⟩)

/-- Deeds in their order, each with what the nodes tell about a group after it. -/
inductive History (name : String) : Traffic → List (Deed × Report) → Traffic → Prop where
  | nil {traffic : Traffic} : History name traffic [] traffic
  | cons {before between after : Traffic} {deed : Deed} {entries : List (Deed × Report)}
      (acts : Acts before deed between) (rest : History name between entries after) :
      History name before ((deed, between.cluster.report name) :: entries) after

/-- A stage that a get of a group may reach: it asks peers below the base path, and the node that
a request reaches serves the same group. -/
def Stage.Within (base name : String) : Stage → Prop
  | .asking (.peer fetcher) => fetcher.Under base
  | .served place _ => place.group = name
  | _ => True

variable {base name : String} {cluster after first second : Cluster} {place : Place} {key : String}
  {flights : List Flight} {stage next : Stage}

theorem Agrees.loads (agrees : Agrees name first second) (node : Nat) :
    first.loads ⟨node, name⟩ = second.loads ⟨node, name⟩ := by
  have counted (cluster : Cluster) : cluster.loads ⟨node, name⟩ =
      { cluster with journal := cluster.journal.filter (·.group = name) }.loads ⟨node, name⟩ := by
    rw [Cluster.loads, Cluster.loads, List.countP_filter]
    refine List.countP_congr fun event _ => ?_
    cases event with
    | asked => simp
    | loaded other => simp +contextual [Event.group]
  rw [counted, counted second]
  simp only [Cluster.loads, agrees.journal]

theorem Agrees.report (agrees : Agrees name first second) :
    first.report name = second.report name := by
  rw [Cluster.report, Cluster.report, agrees.length]
  refine List.map_congr_left fun node _ => ?_
  rw [agrees.groups, agrees.loads]

/-- What is done for a group once it is known whether a node has it. -/
def forGroup (operation : Cluster → Option (Answer × Cluster)) :
    Option Group → Cluster → Option (Answer × Cluster)
  | none, cluster => some (.noGroup, cluster)
  | some _, cluster => operation cluster

theorem apply_get (cluster : Cluster) (place : Place) (key : String) :
    cluster.apply (.get place key) = forGroup (fun cluster => (cluster.get place key).bind
      fun answered => some (.got answered.1, answered.2)) (cluster.group? place) cluster := by
  rw [apply]
  cases cluster.group? place <;> rfl

theorem apply_getAll (cluster : Cluster) (place : Place) (keys : List String) :
    cluster.apply (.getAll place keys) = forGroup (fun cluster => (cluster.getAll place keys).bind
      fun answered => some (.gotAll answered.1, answered.2)) (cluster.group? place) cluster := by
  rw [apply]
  cases cluster.group? place <;> rfl

theorem named?_eq {path found sought : String}
    (parsed : PeerPath.parse (PeerPath.normalizeBase base) path = .ok (found, sought)) :
    named? base path = some found := by
  rw [named?, parsed]
  rfl

theorem Confined.forGroup {operation : Cluster → Option (Answer × Cluster)}
    (confined : Confined base name operation) (node : Nat) : Confined base name fun cluster =>
      Cluster.forGroup operation (cluster.group? ⟨node, name⟩) cluster :=
  .group? node (Cluster.forGroup operation) (.pure Answer.noGroup) fun _ _ => confined

/-- A step that is about no other group. -/
theorem Confined.apply {step : Step} (keeps : step.KeepsPeers)
    (about : ∀ found, step.about? base = some found → found = name) :
    Confined base name fun cluster => cluster.apply step := by
  cases step with
  | newGroup place shard loader =>
    obtain rfl := about _ rfl
    exact .newGroup place.node shard loader Answer.done
  | register place picker =>
    obtain rfl := about _ rfl
    exact .register place.node picker
  | get place key =>
    obtain rfl := about _ rfl
    exact .congr (apply_get · place key)
      (.forGroup (.bind (.get place.node key) fun _ => .pure _) place.node)
  | getAll place keys =>
    obtain rfl := about _ rfl
    exact .congr (apply_getAll · place keys)
      (.forGroup (.bind (.getAll place.node keys) fun _ => .pure _) place.node)
  | serve node path =>
    exact .bind (.serve node fun found _ parsed => about found (named?_eq parsed)) fun _ => .pure _
  | setPeers => exact keeps.elim
  | fetch => exact keeps.elim

/-- A get whose group was replaced leaves no more than its entries in the journal. -/
theorem Confined.withJournal {change : Cluster → Cluster}
    (confined : Confined base name fun cluster => some ((), change cluster)) :
    Confined base name fun cluster => some ((), { cluster with journal := (change cluster).journal })
    where
  peered peered done := by
    obtain ⟨_, rfl⟩ := Prod.mk.inj (Option.some.inj done)
    exact peered
  spares peered done other differs := by
    obtain ⟨_, rfl⟩ := Prod.mk.inj (Option.some.inj done)
    exact ⟨rfl, rfl, fun _ => rfl, (confined.spares peered rfl other differs).journal⟩
  mirrors peered agrees done := by
    obtain ⟨rfl, rfl⟩ := Prod.mk.inj (Option.some.inj done)
    obtain ⟨_, again, same⟩ := confined.mirrors peered agrees rfl
    obtain ⟨_, rfl⟩ := Prod.mk.inj (Option.some.inj again)
    exact ⟨_, rfl, agrees.network, agrees.nodes, agrees.groups, same.journal⟩

theorem Stage.ofFetched_within (base name : String) (fetched : Fetched) :
    (ofFetched fetched).Within base name := by
  cases fetched <;> exact trivial

/-- A get may take its next step wherever its group is the same and the same gets of the group
have come to an end. -/
def Mirrored (name : String) (flights : List Flight) (key : String) (node : Nat)
    (cluster : Cluster) (stage : Stage) (change : Cluster → Cluster) (next : Stage) : Prop :=
  ∀ {second : Cluster} {others : List Flight}, Agrees name cluster second →
    (∀ flight ∈ flights, flight.place.group = name → flight ∈ others) →
    Moves others ⟨node, name⟩ key second stage (change second) next

/-- A move changes nothing but the group of the get, and does so wherever that is the same. -/
theorem Moves.confined {node : Nat} (peered : cluster.Peered base)
    (within : stage.Within base name)
    (moves : Moves flights ⟨node, name⟩ key cluster stage after next) :
    next.Within base name ∧ ∃ change : Cluster → Cluster,
      (Confined base name fun cluster => some ((), change cluster)) ∧ after = change cluster ∧
      Mirrored name flights key node cluster stage change next := by
  have still : Confined base name fun cluster => some ((), cluster) := .pure ()
  have told (fetched : Fetched) : Confined base name fun cluster =>
      some ((), cluster.updateGroup ⟨node, name⟩ (·.finishFetch fetched)) :=
    .updateGroup (·.finishFetch_name fetched) node ()
  induction moves with
  | refuse => exact ⟨trivial, id, still, rfl, fun _ _ => .refuse⟩
  | find => exact ⟨trivial, id, still, rfl, fun _ _ => .find⟩
  | alone hosted known picked =>
    refine ⟨trivial, id, still, rfl, fun agrees _ => ?_⟩
    have alone := sourceAt?_eq_some.mpr ⟨_, _, hosted, known, picked⟩
    obtain ⟨_, _, hosted, known, picked⟩ := sourceAt?_eq_some.mp (agrees.sourceAt? node key ▸ alone)
    exact .alone hosted known picked
  | @ask server group source hosted known picked =>
    have asked := sourceAt?_eq_some.mpr ⟨_, _, hosted, known, picked⟩
    have under : (Stage.asking source).Within base name := by
      cases source with
      | peer fetcher => exact peered.source asked
      | standIn => exact trivial
    let event : Event := .asked ⟨node, name⟩ source key
    refine ⟨under, _, .record event rfl (), rfl, fun agrees _ => ?_⟩
    obtain ⟨_, _, hosted, known, picked⟩ := sourceAt?_eq_some.mp (agrees.sourceAt? node key ▸ asked)
    exact .ask hosted known picked
  | standIn given =>
    exact ⟨Stage.ofFetched_within .., _, told _, rfl, fun _ _ => .standIn given⟩
  | stop routed =>
    refine ⟨Stage.ofFetched_within .., _, told _, rfl, fun agrees _ => ?_⟩
    exact .stop (agrees.route _ ▸ routed)
  | @arrive fetcher server path host group sought routed hosted parsed =>
    obtain ⟨address, peer, below⟩ := within
    have based := (peered host (List.mem_of_getElem? hosted)).basePath
    have named := ((route_eq_toNode peer below routed).2 group sought (based ▸ parsed)).1
    refine ⟨named, id, still, rfl, fun {second _} agrees _ => ?_⟩
    have there : (second.nodes[server]?).bind (some ·.pool.basePath) = some host.pool.basePath := by
      rw [← agrees.bind_node server fun _ => rfl, hosted]
      rfl
    obtain ⟨other, hosted, same⟩ := Option.bind_eq_some_iff.mp there
    exact .arrive (agrees.route _ ▸ routed) hosted (Option.some.inj same ▸ parsed)
  | reply answered given =>
    refine ⟨Stage.ofFetched_within .., _, told _, rfl, fun _ same => ?_⟩
    exact .reply (same _ answered within) given
  | lost error => exact ⟨trivial, _, told _, rfl, fun _ _ => .lost error⟩
  | failed error => exact ⟨trivial, _, told _, rfl, fun _ _ => .failed error⟩
  | @load group known =>
    let event : Event := .loaded ⟨node, name⟩ key (group.loader key).isOk
    exact ⟨trivial, _, .record event rfl (), rfl, fun agrees _ => .load (agrees.groups node ▸ known)⟩
  | @keep group loaded known =>
    have named := (group.finishLoad_name key loaded).trans (group?_name known)
    exact ⟨trivial, _, .insertGroup named node (), rfl,
      fun agrees _ => .keep (agrees.groups node ▸ known)⟩
  | replaced _ ih =>
    -- the get goes on with the group that it began with, which nothing can find any more
    obtain ⟨within, change, confined, rfl, mirrored⟩ := ih within
    exact ⟨within, _, confined.withJournal, rfl,
      fun agrees same => .replaced (mirrored agrees same)⟩

def flightsOf (name : String) (flights : List Flight) : List Flight :=
  flights.filter (·.place.group = name)

section

variable (flight : Flight)

theorem flightsOf_own (own : flight.place.group = name) (front behind : List Flight) :
    flightsOf name (front ++ flight :: behind) =
      flightsOf name front ++ flight :: flightsOf name behind := by
  rw [flightsOf, List.filter_append, List.filter_cons_of_pos (by simpa using own)]
  rfl

theorem flightsOf_other (differs : flight.place.group ≠ name) (front behind : List Flight) :
    flightsOf name (front ++ flight :: behind) =
      flightsOf name front ++ flightsOf name behind := by
  rw [flightsOf, List.filter_append, List.filter_cons_of_neg (by simpa using differs)]
  rfl

end

/-- A cluster, and one in which only what is about one group has been done. -/
structure Beside (base name : String) (whole part : Traffic) : Prop where
  peered : whole.cluster.Peered base
  agrees : Agrees name whole.cluster part.cluster
  flights : part.flights = flightsOf name whole.flights
  within : ∀ flight ∈ whole.flights, flight.stage.Within base flight.place.group

theorem exists_other {about : Option String} (differs : about ≠ some name) :
    ∃ other, name ≠ other ∧ ∀ found, about = some found → found = other := by
  cases about with
  | none =>
    refine ⟨name ++ "'", fun same => ?_, nofun⟩
    have := congrArg String.length same
    simp at this
  | some other =>
    exact ⟨other, fun same => differs (same ▸ rfl), fun found same => (Option.some.inj same).symm⟩

theorem within_moved {front behind : List Flight}
    (within : ∀ flight ∈ front ++ ⟨place, key, stage⟩ :: behind,
      flight.stage.Within base flight.place.group) (reached : next.Within base place.group) :
    ∀ flight ∈ front ++ ⟨place, key, next⟩ :: behind,
      flight.stage.Within base flight.place.group := by
  have ⟨inFront, rest⟩ := List.forall_mem_append.mp within
  have ⟨_, inBehind⟩ := List.forall_mem_cons.mp rest
  exact List.forall_mem_append.mpr ⟨inFront, List.forall_mem_cons.mpr ⟨reached, inBehind⟩⟩

/-- What is about no other group leaves the others and their gets as they are, and can be done
wherever the group and its gets are the same. -/
theorem Acts.confined {whole later : Traffic} {deed : Deed} (peered : whole.cluster.Peered base)
    (within : ∀ flight ∈ whole.flights, flight.stage.Within base flight.place.group)
    (keeps : deed.KeepsPeers) (only : ∀ found, deed.about? base = some found → found = name)
    (acts : Acts whole deed later) :
    later.cluster.Peered base ∧
    (∀ flight ∈ later.flights, flight.stage.Within base flight.place.group) ∧
    (∀ other ≠ name, Agrees other whole.cluster later.cluster ∧
      flightsOf other later.flights = flightsOf other whole.flights) ∧
    ∀ second, Agrees name whole.cluster second → ∃ after, Agrees name later.cluster after ∧
      Acts ⟨second, flightsOf name whole.flights⟩ deed ⟨after, flightsOf name later.flights⟩ := by
  cases acts with
  | step done =>
    have confined := Confined.apply keeps only
    refine ⟨confined.peered peered done, within,
      fun other apart => ⟨confined.spares peered done other apart, rfl⟩, fun second agrees => ?_⟩
    obtain ⟨after, again, same⟩ := confined.mirrors peered agrees done
    exact ⟨after, same, .step again⟩
  | @request _ _ _ node target _ done =>
    have confined : Confined base name (·.serve node (Http.targetPath target)) :=
      .serve node fun found _ parsed => only found (named?_eq parsed)
    refine ⟨confined.peered peered done, within,
      fun other apart => ⟨confined.spares peered done other apart, rfl⟩, fun second agrees => ?_⟩
    obtain ⟨after, again, same⟩ := confined.mirrors peered agrees done
    exact ⟨after, same, .request again⟩
  | @start _ _ flights place key started begun =>
    obtain rfl := only _ rfl
    have confined : Confined base place.group (·.start place key) := .start place.node key
    let flight : Flight := ⟨place, key, .started started⟩
    refine ⟨confined.peered peered begun, List.forall_mem_cons.mpr ⟨trivial, within⟩,
      fun other apart => ⟨confined.spares peered begun other apart, ?_⟩, fun second agrees => ?_⟩
    · exact flightsOf_other flight apart.symm [] flights
    · obtain ⟨after, again, same⟩ := confined.mirrors peered agrees begun
      have own : flightsOf place.group (flight :: flights) =
          flight :: flightsOf place.group flights := flightsOf_own flight rfl [] flights
      exact ⟨after, same, own ▸ .start again⟩
  | @move _ _ front behind place key stage next moves =>
    obtain rfl := only _ rfl
    have here : stage.Within base place.group := within ⟨place, key, stage⟩ (by simp)
    obtain ⟨reached, change, confined, rfl, mirrored⟩ := moves.confined peered here
    refine ⟨confined.peered peered rfl, within_moved within reached,
      fun other apart => ⟨confined.spares peered rfl other apart, ?_⟩, fun second agrees => ?_⟩
    · rw [flightsOf_other _ apart.symm, flightsOf_other _ apart.symm]
    · obtain ⟨_, again, same⟩ := confined.mirrors peered agrees rfl
      obtain ⟨_, rfl⟩ := Prod.mk.inj (Option.some.inj again)
      have parted : flightsOf place.group (front ++ ⟨place, key, stage⟩ :: behind) =
          flightsOf place.group front ++ ⟨place, key, stage⟩ :: flightsOf place.group behind :=
        flightsOf_own ⟨place, key, stage⟩ rfl front behind
      refine ⟨change second, same, ?_⟩
      rw [parted, flightsOf_own ⟨place, key, next⟩ rfl front behind]
      refine .move (mirrored agrees fun flight member own => ?_)
      exact parted ▸ List.mem_filter.mpr ⟨member, decide_eq_true own⟩

namespace Beside

variable {whole part later : Traffic} {deed : Deed}

/-- What is about the group can be done without the rest as well. -/
theorem own (beside : Beside base name whole part) (keeps : deed.KeepsPeers)
    (about : deed.about? base = some name) (acts : Acts whole deed later) :
    ∃ after, Acts part deed after ∧ Beside base name later after := by
  obtain ⟨second, others⟩ := part
  obtain ⟨peered, agrees, rfl, within⟩ := beside
  have only : ∀ found, deed.about? base = some found → found = name :=
    fun found same => Option.some.inj (same.symm.trans about)
  obtain ⟨kept, stays, _, mirrors⟩ := acts.confined peered within keeps only
  obtain ⟨after, same, repeats⟩ := mirrors second agrees
  exact ⟨_, repeats, kept, same, rfl, stays⟩

/-- What is about something else leaves no trace. -/
theorem foreign (beside : Beside base name whole part) (keeps : deed.KeepsPeers)
    (differs : deed.about? base ≠ some name) (acts : Acts whole deed later) :
    Beside base name later part := by
  obtain ⟨peered, agrees, flights, within⟩ := beside
  obtain ⟨other, apart, only⟩ := exists_other differs
  obtain ⟨kept, stays, spares, _⟩ := acts.confined peered within keeps only
  obtain ⟨spared, unmoved⟩ := spares name apart
  exact ⟨kept, spared.symm.trans agrees, flights.trans unmoved.symm, stays⟩

theorem history {entries : List (Deed × Report)} (beside : Beside base name whole part)
    (keeps : ∀ entry ∈ entries, entry.1.KeepsPeers) (ran : History name whole entries later) :
    ∃ after, History name part (entries.filter (·.1.about? base = some name)) after ∧
      Beside base name later after := by
  -- `Beside` carries the induction: a deed about the group is done in both, any other in one
  induction ran generalizing part with
  | nil => exact ⟨part, .nil, beside⟩
  | @cons before between after deed entries acts _ ih =>
    have ⟨first, others⟩ := List.forall_mem_cons.mp keeps
    by_cases about : deed.about? base = some name
    · obtain ⟨between, repeats, kept⟩ := beside.own first about acts
      obtain ⟨after, rest, ended⟩ := ih kept others
      rw [List.filter_cons_of_pos (by simpa using about), kept.agrees.report]
      exact ⟨after, .cons repeats rest, ended⟩
    · obtain ⟨after, rest, ended⟩ := ih (beside.foreign first about acts) others
      rw [List.filter_cons_of_neg (by simpa using about)]
      exact ⟨after, rest, ended⟩

theorem run {steps : List Step} {answers : List Answer}
    (beside : Beside base name ⟨first, []⟩ ⟨second, []⟩) (keeps : ∀ step ∈ steps, step.KeepsPeers)
    (ran : first.run steps = some (answers, after)) :
    ∃ apart, second.run (steps.filter (·.about? base = some name)) =
        some (((steps.zip answers).filter (·.1.about? base = some name)).map (·.2), apart) ∧
      Beside base name ⟨after, []⟩ ⟨apart, []⟩ := by
  induction steps generalizing first second answers with
  | nil =>
    obtain ⟨rfl, rfl⟩ := Prod.mk.inj (Option.some.inj ran)
    exact ⟨second, rfl, beside⟩
  | cons step steps ih =>
    have ⟨own, others⟩ := List.forall_mem_cons.mp keeps
    simp only [Cluster.run, Option.bind_eq_bind, Option.bind_eq_some_iff] at ran
    obtain ⟨⟨answer, between⟩, done, ⟨rest, _⟩, goesOn, ran⟩ := ran
    obtain ⟨rfl, rfl⟩ := Prod.mk.inj (Option.some.inj ran)
    have acts : Acts ⟨first, []⟩ (.step step answer) ⟨between, []⟩ := .step done
    have keeps : (Deed.step step answer).KeepsPeers := own
    by_cases about : step.about? base = some name
    · obtain ⟨_, repeats, kept⟩ := beside.own keeps about acts
      obtain ⟨middle, again, rfl⟩ := repeats.apply_eq
      obtain ⟨apart, ran, ended⟩ := ih kept others goesOn
      refine ⟨apart, ?_, ended⟩
      rw [List.zip_cons_cons, List.filter_cons_of_pos (by simpa using about),
        List.filter_cons_of_pos (by simpa using about)]
      simp only [Cluster.run, again, ran, Option.bind_eq_bind, Option.bind_some]
      rfl
    · obtain ⟨apart, ran, ended⟩ := ih (beside.foreign keeps about acts) others goesOn
      refine ⟨apart, ?_, ended⟩
      rw [List.zip_cons_cons, List.filter_cons_of_neg (by simpa using about),
        List.filter_cons_of_neg (by simpa using about)]
      exact ran

end Beside

/-- In a cluster whose peers are hosts and ports below one base path, whatever is done, overlapping
or not: what is about one group can be done alone, with the same answers, and after each deed the
nodes tell the same about the group. So do steps one after the other. -/
theorem groups_isolated (peered : cluster.Peered base) (name : String) :
    (∀ entries traffic, (∀ entry ∈ entries, entry.1.KeepsPeers) →
      History name ⟨cluster, []⟩ entries traffic →
      ∃ apart, History name ⟨cluster, []⟩ (entries.filter (·.1.about? base = some name)) apart ∧
        apart.cluster.report name = traffic.cluster.report name) ∧
    ∀ steps answers after, (∀ step ∈ steps, step.KeepsPeers) →
      cluster.run steps = some (answers, after) →
      ∃ apart, cluster.run (steps.filter (·.about? base = some name)) =
          some (((steps.zip answers).filter (·.1.about? base = some name)).map (·.2), apart) ∧
        apart.report name = after.report name := by
  have beside : Beside base name ⟨cluster, []⟩ ⟨cluster, []⟩ :=
    ⟨peered, .refl name cluster, rfl, List.forall_mem_nil _⟩
  constructor
  · intro entries traffic keeps history
    obtain ⟨apart, ran, ended⟩ := beside.history keeps history
    exact ⟨apart, ran, ended.agrees.report.symm⟩
  · intro steps answers after keeps ran
    obtain ⟨apart, again, ended⟩ := beside.run keeps ran
    exact ⟨apart, again, ended.agrees.report.symm⟩

/-- A node that echoes, and one that asks it for every key. -/
def echoed : Cluster where
  nodes := echo.nodes ++ [{
    pool := (Pool.new "http://b:80" { replicas := 1, hash := some fun _ => 0 }).set ["http://a:80/"]
    groups := ⟨[{
      name := "g", loader := fun _ => .error "gone", shard := .lru 9, picker := some .pool }]⟩ }]

/-- Two gets over two nodes are answered in the same way without what is done between them. -/
theorem groups_isolated_echoed :
    let steps : List Step := [
      .get ⟨1, "g"⟩ "k", .newGroup ⟨0, "h"⟩ none fun _ => .error "none", .serve 0 "/h/k",
      .getAll ⟨0, "h"⟩ ["k", "k"], .serve 0 "/_geecache/h/k", .get ⟨1, "g"⟩ "k"]
    ∃ answers after, echoed.run steps = some (answers, after) ∧ ∃ apart,
      echoed.run [.get ⟨1, "g"⟩ "k", .get ⟨1, "g"⟩ "k"] =
        some ([.got (.ok (.ofText "k")), .got (.ok (.ofText "k"))], apart) ∧
      apart.report "g" = after.report "g" := by
  intro steps
  have peered : echoed.Peered PeerPath.defaultBase := by
    refine List.forall_mem_cons.mpr ⟨⟨rfl, nofun⟩, List.forall_mem_singleton.mpr ⟨rfl, ?_⟩⟩
    refine List.forall_mem_singleton.mpr ⟨"http://a:80/", ?_, rfl⟩
    exact ⟨['a'], ['8', '0'], 1, ⟨by simp [Url.endsHost], by simp, by simp⟩, rfl⟩
  have answered : (echoed.run steps).map (·.1) = some [.got (.ok (.ofText "k")), .done,
      .served (.error (.badPath (.unexpectedPath "/h/k"))),
      .gotAll [.error (.loaderFailed "none"), .error (.loaderFailed "none")],
      .served (.error (.lookup (.loaderFailed "none"))), .got (.ok (.ofText "k"))] := by cbv
  obtain ⟨⟨answers, after⟩, ran, rfl⟩ := Option.map_eq_some_iff.mp answered
  have keeps : ∀ step ∈ steps, step.KeepsPeers := by simp [steps, Step.KeepsPeers]
  obtain ⟨apart, again, same⟩ := (groups_isolated peered "g").2 steps _ after keeps ran
  have nowhere : named? PeerPath.defaultBase "/h/k" = none := by cbv
  have elsewhere : named? PeerPath.defaultBase "/_geecache/h/k" = some "h" := by cbv
  refine ⟨_, after, ran, apart, ?_, same⟩
  simpa [steps, Step.about?, nowhere, elsewhere] using again

end ReadThrough.Cluster
