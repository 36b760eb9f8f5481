import Mathlib
import ReadThrough.Proofs.KeyHomes

/-! Gets of a federation, one after the other or overlapping at any point, on a network that
loses nothing. Each of them asks at most once, and then the home of the key, which asks nobody;
and no node ever holds a key of another. -/

namespace ReadThrough

/-- Whether an event is a question of a place for a key. -/
def Event.asks (place : Place) (key : String) : Event → Bool
  | .asked other _ sought => other = place && sought = key
  | .loaded .. => false

namespace Cluster

/-- Whether a get has looked into the shard and gone on. -/
def Stage.goneOn : Stage → Bool
  | .started _ => false
  | _ => true

/-- A move for which the network lost nothing: a question arrives, and it comes to nothing only
if the get that it led to did. -/
def Stage.Delivered (flights : List Flight) : Stage → Stage → Prop
  | .asking _, next => ∃ place key, next = .served place key
  | .served place key, .unanswered => ∃ error, ⟨place, key, .done (.error error)⟩ ∈ flights
  | _, _ => True

/-- A stage that a get at a node of a federation may reach when nothing is lost: only the home
of a key is asked for it, by other nodes, and only the home gets a value from the loader. -/
def Stage.AtHome (federation : Federation) (node : Nat) (key : String) : Stage → Prop
  | .started _ | .done _ => True
  | .asking source => ∃ fetcher, source = .peer fetcher ∧ federation.Asks node key fetcher
  | .served place sought => ¬federation.Owns node key ∧ federation.Owns place.node key ∧
      place.group = federation.name ∧ sought = key
  | .unanswered | .loaded _ => federation.MayLoad node key

variable {federation : Federation} {cluster after : Cluster} {place : Place} {node : Nat}
  {key : String} {flights : List Flight} {stage next : Stage}

/-- A move enters a call of a loader into the journal, or the question that a get asks after its
first look, or nothing. -/
theorem Moves.journal (moves : Moves flights place key cluster stage after next) :
    next.goneOn = true ∧ (after.journal = cluster.journal ∨
      (∃ event, event.IsLoad ∧ after.journal = event :: cluster.journal) ∨
      ∃ source, stage.goneOn = false ∧ next = .asking source ∧
        after.journal = .asked place source key :: cluster.journal) := by
  have ofFetched (fetched : Fetched) : (Stage.ofFetched fetched).goneOn = true := by
    cases fetched <;> rfl
  induction moves with
  | refuse => exact ⟨rfl, .inl rfl⟩
  | find => exact ⟨rfl, .inl rfl⟩
  | alone => exact ⟨rfl, .inl rfl⟩
  | ask => exact ⟨rfl, .inr (.inr ⟨_, rfl, rfl, rfl⟩)⟩
  | standIn => exact ⟨ofFetched _, .inl (journal_updateGroup _ _ _)⟩
  | stop => exact ⟨ofFetched _, .inl (journal_updateGroup _ _ _)⟩
  | arrive => exact ⟨rfl, .inl rfl⟩
  | reply => exact ⟨ofFetched _, .inl (journal_updateGroup _ _ _)⟩
  | lost => exact ⟨rfl, .inl (journal_updateGroup _ _ _)⟩
  | failed => exact ⟨rfl, .inl (journal_updateGroup _ _ _)⟩
  | load => exact ⟨rfl, .inr (.inl ⟨.loaded .., trivial, rfl⟩)⟩
  | keep => exact ⟨rfl, .inl rfl⟩
  | replaced _ ih => exact ih

/-- Every move that loses nothing leaves the keys at their homes. -/
theorem Settled.moves (settled : cluster.Settled federation)
    (others : ∀ flight ∈ flights, flight.place.group = federation.name →
      flight.stage.Suits federation.toService flight.key)
    (suits : stage.Suits federation.toService key) (home : stage.AtHome federation node key)
    (sought : Url.Undotted key) (delivered : stage.Delivered flights next)
    (moves : Moves flights ⟨node, federation.name⟩ key cluster stage after next) :
    after.Settled federation ∧ next.AtHome federation node key := by
  induction moves with
  | refuse => exact ⟨settled, trivial⟩
  | find => exact ⟨settled, trivial⟩
  | alone hosted known picked =>
    refine ⟨settled, fun _ _ => ?_⟩
    rcases settled.source? hosted known key with ⟨owns, _⟩ | ⟨_, _, asked⟩
    · exact owns
    · nomatch picked.symm.trans asked
  | ask hosted known picked =>
    refine ⟨settled.record _, ?_⟩
    rcases settled.source? hosted known key with ⟨_, alone⟩ | ⟨fetcher, asks, asked⟩
    · nomatch picked.symm.trans alone
    · exact ⟨fetcher, Option.some.inj (picked.symm.trans asked), asks⟩
  | standIn =>
    obtain ⟨_, same, _⟩ := home
    nomatch same
  | stop routed =>
    obtain ⟨fetcher, same, asks⟩ := home
    obtain rfl := Source.peer.inj same
    obtain ⟨_, _, _, _, serves⟩ := settled.serves asks
    obtain ⟨_, _, arrives⟩ := serves.route_fetchUrl federation.name key
    nomatch routed.symm.trans arrives
  | arrive routed hosted parsed =>
    refine ⟨settled, ?_⟩
    obtain ⟨fetcher, same, asks⟩ := home
    obtain rfl := Source.peer.inj same
    obtain ⟨other, server, owns, standing, serves⟩ := settled.serves asks
    obtain ⟨path, arrives, asked⟩ := serves.arrives federation.named.1 federation.named.2 sought
    obtain ⟨rfl, rfl⟩ := Route.toNode.inj (routed.symm.trans arrives)
    obtain rfl := Option.some.inj (standing.symm.trans hosted)
    obtain ⟨rfl, rfl⟩ := Prod.mk.inj (Except.ok.inj (parsed.symm.trans asked))
    exact ⟨asks.1, owns, rfl, rfl⟩
  | @reply _ _ got fetched answered told =>
    refine ⟨settled.finishFetch _, ?_⟩
    obtain ⟨_, _, named, rfl⟩ := home
    cases fetched with
    | ok value => trivial
    | error error =>
      obtain ⟨_, failure, rfl⟩ :=
        Fetched.ofGot_eq_error.mp ((Fetched.ofResponse_got got).symm.trans told.symm)
      exact .of_failed suits.1 (others _ answered named)
  | lost =>
    obtain ⟨_, _, same⟩ := delivered
    nomatch same
  | failed =>
    refine ⟨settled.finishFetch _, ?_⟩
    obtain ⟨_, _, named, rfl⟩ := home
    obtain ⟨error, answered⟩ := delivered
    exact .of_failed suits.1 (others _ answered named)
  | load known =>
    exact ⟨settled.record _, home⟩
  | keep known =>
    obtain ⟨_, rfl⟩ := suits
    exact ⟨settled.finishLoad known home, trivial⟩
  | replaced _ ih =>
    have ⟨_, stays⟩ := ih suits home delivered
    exact ⟨settled.withJournal _, stays⟩

/-- A get of a federation that is under way or has come to its end. -/
structure Flight.Settled (federation : Federation) (flight : Flight) : Prop where
  named : flight.place.group = federation.name
  sought : Url.Undotted flight.key
  suits : flight.stage.Suits federation.toService flight.key
  home : flight.stage.AtHome federation flight.place.node flight.key

/-- How many of the gets of a place for a key have gone on after their first look. -/
def Traffic.gone (traffic : Traffic) (place : Place) (key : String) : Nat :=
  traffic.flights.countP fun flight =>
    flight.place = place && flight.key = key && flight.stage.goneOn

/-- A federation with the gets in it. The questions in the journal are those of gets that have
gone on, to the homes of their keys. -/
structure Traffic.Settled (federation : Federation) (traffic : Traffic) : Prop where
  cluster : traffic.cluster.Settled federation
  flights : ∀ flight ∈ traffic.flights, flight.Settled federation
  questions : ∀ place source key, .asked place source key ∈ traffic.cluster.journal →
    ∃ fetcher, source = .peer fetcher ∧ federation.Asks place.node key fetcher
  count : ∀ place key,
    traffic.cluster.journal.countP (Event.asks place key) ≤ traffic.gone place key

end Cluster

namespace Federation.Trail

variable {federation : Federation} {node : Nat} {key : String} {events : List Event}

theorem countP_of_loads {loads : List Event} (only : ∀ event ∈ loads, event.IsLoad)
    (place : Place) (key : String) : loads.countP (Event.asks place key) = 0 := by
  apply List.countP_eq_zero.mpr
  intro event member
  cases event with
  | loaded => exact Bool.false_ne_true
  | asked => exact (only _ member).elim

theorem question (trail : federation.Trail node key events) {place : Place} {source : Source}
    {sought : String} (member : .asked place source sought ∈ events) :
    place.node = node ∧ sought = key ∧
      ∃ fetcher, source = .peer fetcher ∧ federation.Asks node key fetcher := by
  cases trail with
  | none only => exact (only _ member).elim
  | one only asks =>
    rcases List.mem_append.mp member with load | question
    · exact (only _ load).elim
    · obtain ⟨rfl, rfl, rfl⟩ := Event.asked.inj (List.mem_singleton.mp question)
      exact ⟨rfl, rfl, _, rfl, asks⟩

theorem countP_le (trail : federation.Trail node key events) (place : Place) (sought : String) :
    events.countP (Event.asks place sought) ≤
      if (⟨node, federation.name⟩ : Place) = place ∧ key = sought then 1 else 0 := by
  cases trail with
  | none only =>
    rw [countP_of_loads only]
    exact Nat.zero_le _
  | one only asks =>
    rw [List.countP_append, countP_of_loads only, Nat.zero_add, List.countP_singleton]
    simp only [Event.asks, Bool.and_eq_true, decide_eq_true_eq]
    exact Nat.le_refl _

end Federation.Trail

namespace Cluster

variable {federation : Federation} {cluster after : Cluster} {node : Nat} {key : String}
  {flights : List Flight} {stage next : Stage}

theorem Moves.trail (home : next.AtHome federation node key)
    (moves : Moves flights ⟨node, federation.name⟩ key cluster stage after next) :
    ∃ events, after.journal = events ++ cluster.journal ∧ federation.Trail node key events ∧
      (stage.goneOn = true → ∀ event ∈ events, event.IsLoad) := by
  obtain ⟨_, same | ⟨event, load, entered⟩ | ⟨source, looked, rfl, entered⟩⟩ := moves.journal
  · exact ⟨[], same, .none (List.forall_mem_nil _), fun _ => List.forall_mem_nil _⟩
  · have only := List.forall_mem_singleton.mpr load
    exact ⟨[event], entered, .none only, fun _ => only⟩
  · obtain ⟨fetcher, rfl, asks⟩ := home
    refine ⟨[_], entered, .one (List.forall_mem_nil _) asks, fun gone => ?_⟩
    nomatch looked.symm.trans gone

namespace Traffic.Settled

theorem enter {traffic : Traffic} (settled : traffic.Settled federation) {events : List Event}
    (trail : federation.Trail node key events) : ∀ place source key,
    .asked place source key ∈ events ++ traffic.cluster.journal →
      ∃ fetcher, source = .peer fetcher ∧ federation.Asks place.node key fetcher := by
  intro place source sought member
  rcases List.mem_append.mp member with new | old
  · obtain ⟨rfl, rfl, asked⟩ := trail.question new
    exact asked
  · exact settled.questions place source sought old

theorem start (settled : Settled federation ⟨cluster, flights⟩) (sought : Url.Undotted key)
    {started : Group.Started}
    (begun : cluster.start ⟨node, federation.name⟩ key = some (started, after)) :
    Settled federation ⟨after, ⟨⟨node, federation.name⟩, key, .started started⟩ :: flights⟩ := by
  have same : after.journal = cluster.journal := by
    obtain ⟨_, _, _, rfl⟩ := start_eq_some begun
    rfl
  refine ⟨settled.cluster.start begun, ?_, ?_, ?_⟩
  · have suits := (settled.cluster.runs.start begun).2 rfl
    exact List.forall_mem_cons.mpr ⟨⟨rfl, sought, suits, trivial⟩, settled.flights⟩
  · rw [same]
    exact settled.questions
  · intro place sought
    rw [same, gone, List.countP_cons_of_neg (by simp [Stage.goneOn])]
    exact settled.count place sought

theorem get (settled : Settled federation ⟨cluster, flights⟩) (sought : Url.Undotted key)
    {got : Group.Got} (done : cluster.get ⟨node, federation.name⟩ key = some (got, after)) :
    Settled federation ⟨after, ⟨⟨node, federation.name⟩, key, .done got⟩ :: flights⟩ := by
  obtain ⟨_, _, begun, _⟩ := getVia_eq_some done
  obtain ⟨group, found, _⟩ := start_eq_some begun
  obtain ⟨server, hosted, _⟩ := settled.cluster.known found
  have inside := settled.cluster.inside hosted
  obtain ⟨_, _, events, ended, kept, journal, trail⟩ :=
    settled.cluster.getVia inside sought cluster.nodes.length
  obtain ⟨rfl, rfl⟩ := Prod.mk.inj (Option.some.inj (done.symm.trans ended))
  refine ⟨kept, ?_, ?_, ?_⟩
  · have suits := (settled.cluster.runs.getVia done).2 rfl
    exact List.forall_mem_cons.mpr ⟨⟨rfl, sought, suits, trivial⟩, settled.flights⟩
  · rw [journal]
    exact settled.enter trail
  · intro place sought
    have before := settled.count place sought
    have more := trail.countP_le place sought
    rw [journal, List.countP_append, gone, List.countP_cons]
    simp only [gone, Stage.goneOn, Bool.and_true, Bool.and_eq_true, decide_eq_true_eq] at before ⊢
    omega

theorem move {front behind : List Flight}
    (settled : Settled federation
      ⟨cluster, front ++ ⟨⟨node, federation.name⟩, key, stage⟩ :: behind⟩)
    (moves : Moves (front ++ ⟨⟨node, federation.name⟩, key, stage⟩ :: behind)
      ⟨node, federation.name⟩ key cluster stage after next)
    (delivered : stage.Delivered (front ++ ⟨⟨node, federation.name⟩, key, stage⟩ :: behind) next) :
    Settled federation ⟨after, front ++ ⟨⟨node, federation.name⟩, key, next⟩ :: behind⟩ := by
  have ⟨inFront, rest⟩ := List.forall_mem_append.mp settled.flights
  have ⟨own, others⟩ := List.forall_mem_cons.mp rest
  have answers : ∀ flight ∈ front ++ ⟨⟨node, federation.name⟩, key, stage⟩ :: behind,
      flight.place.group = federation.name → flight.stage.Suits federation.toService flight.key :=
    fun flight member _ => (settled.flights flight member).suits
  have ⟨kept, home⟩ : after.Settled federation ∧ next.AtHome federation node key :=
    settled.cluster.moves answers own.suits own.home own.sought delivered moves
  have suits := (settled.cluster.runs.moves answers (fun _ => own.suits) moves).2 rfl
  obtain ⟨events, journal, trail, quiet⟩ := moves.trail home
  refine ⟨kept, ?_, ?_, ?_⟩
  · exact List.forall_mem_append.mpr
      ⟨inFront, List.forall_mem_cons.mpr ⟨⟨rfl, own.sought, suits, home⟩, others⟩⟩
  · rw [journal]
    exact settled.enter trail
  · intro place sought
    have before := settled.count place sought
    have more := trail.countP_le place sought
    have gone := moves.journal.1
    rw [journal, List.countP_append]
    simp only [Traffic.gone, List.countP_append, List.countP_cons, gone] at before ⊢
    cases looked : stage.goneOn with
    | true =>
      rw [Federation.Trail.countP_of_loads (quiet looked)]
      simp only [looked] at before
      omega
    | false =>
      simp only [looked, Bool.and_true, Bool.and_false, Bool.and_eq_true, decide_eq_true_eq,
        Bool.false_eq_true, if_false] at before ⊢
      omega

end Traffic.Settled

end Cluster

/-- A node as a federation begins: its pool was last set to the peers, in an order of its own,
and its group asks the pool and holds nothing yet. -/
structure Node.Founded (federation : Federation) (node : Node) : Prop where
  basePath : node.pool.basePath = PeerPath.normalizeBase federation.base
  hash : node.pool.options.hash.getD Checksum.crc32 = federation.hash
  replicas : node.pool.options.replicas = federation.replicas
  peers : ∃ order : List String, order.Perm federation.peers ∧ node.pool.set order = node.pool
  hosts : (node.groups.get? federation.name).isSome
  groups : ∀ group ∈ node.groups.groups, group.name = federation.name →
    group.loader = federation.loader ∧ group.picker = some .pool ∧ group.shard.cache = none

namespace Node.Founded

variable {federation : Federation} {node : Node}

theorem runs (founded : node.Founded federation) : node.Runs federation.toService where
  basePath := founded.basePath
  fetchers := by
    intro entry member
    obtain ⟨order, same, set⟩ := founded.peers
    rw [← set] at member
    obtain ⟨address, listed, rfl⟩ := List.mem_map.mp member
    have known := same.mem_iff.mp (List.mem_eraseDups.mp listed)
    refine ⟨address, (federation.canonical address known).1, ?_⟩
    rw [← founded.basePath]
    rfl
  groups := by
    intro group member named
    obtain ⟨loads, pooled, empty⟩ := founded.groups group member named
    refine ⟨loads, fun picker picks => ?_, Shard.keeps_of_fresh empty⟩
    exact Option.some.inj (picks.symm.trans pooled)

theorem settled (founded : node.Founded federation) : node.Settled federation := by
  obtain ⟨order, same, set⟩ := founded.peers
  constructor
  · intro key
    have owned := node.pool.ownerOf_set order key
    rw [set, founded.hash, founded.replicas] at owned
    exact owned.trans (federation.separate.owner?_perm same key)
  · intro key
    have picked := node.pool.pick_set order key
    rwa [set] at picked
  · obtain ⟨group, known⟩ := Option.isSome_iff_exists.mp founded.hosts
    obtain ⟨_, pooled, empty⟩ :=
      founded.groups group (List.mem_of_find?_eq_some known) (Registry.name_of_get? known)
    exact ⟨group, known, pooled, Shard.keeps_of_fresh empty⟩

end Node.Founded

/-- A federation before any get, with all links up and no faults. -/
structure Cluster.Founded (federation : Federation) (cluster : Cluster) : Prop where
  up : cluster.network.link = .up
  clear : cluster.network.faults = []
  silent : cluster.journal = []
  addresses : cluster.nodes.map (·.pool.selfAddress) = federation.peers
  nodes : ∀ node ∈ cluster.nodes, node.Founded federation

namespace Federation
open Cluster

variable {federation : Federation}

/-- The states of a federation in which gets are made, whole ones and others that overlap at any
point, while the network loses nothing. -/
inductive Reachable (federation : Federation) : Traffic → Prop where
  | founded {cluster : Cluster} (founded : cluster.Founded federation) :
      Reachable federation ⟨cluster, []⟩
  | get {cluster after : Cluster} {flights : List Flight} {node : Nat} {key : String}
      {got : Group.Got} (before : Reachable federation ⟨cluster, flights⟩)
      (sought : Url.Undotted key)
      (done : cluster.get ⟨node, federation.name⟩ key = some (got, after)) :
      Reachable federation ⟨after, ⟨⟨node, federation.name⟩, key, .done got⟩ :: flights⟩
  | start {cluster after : Cluster} {flights : List Flight} {node : Nat} {key : String}
      {started : Group.Started} (before : Reachable federation ⟨cluster, flights⟩)
      (sought : Url.Undotted key)
      (begun : cluster.start ⟨node, federation.name⟩ key = some (started, after)) :
      Reachable federation ⟨after, ⟨⟨node, federation.name⟩, key, .started started⟩ :: flights⟩
  | move {cluster after : Cluster} {front behind : List Flight} {node : Nat} {key : String}
      {stage next : Stage}
      (before : Reachable federation
        ⟨cluster, front ++ ⟨⟨node, federation.name⟩, key, stage⟩ :: behind⟩)
      (moves : Moves (front ++ ⟨⟨node, federation.name⟩, key, stage⟩ :: behind)
        ⟨node, federation.name⟩ key cluster stage after next)
      (delivered :
        stage.Delivered (front ++ ⟨⟨node, federation.name⟩, key, stage⟩ :: behind) next) :
      Reachable federation ⟨after, front ++ ⟨⟨node, federation.name⟩, key, next⟩ :: behind⟩

theorem Reachable.settled {traffic : Traffic} (reachable : federation.Reachable traffic) :
    traffic.Settled federation := by
  induction reachable with
  | @founded cluster founded =>
    have runs : cluster.Runs federation.toService := by
      constructor
      · exact fun node member => (founded.nodes node member).runs
      · exact fun entry member => absurd (founded.clear ▸ member) List.not_mem_nil
    refine ⟨⟨runs, founded.up, founded.clear, founded.addresses, ?_⟩, List.forall_mem_nil _, ?_, ?_⟩
    · exact fun node member => (founded.nodes node member).settled
    · intro place source key member
      exact absurd (founded.silent ▸ member) List.not_mem_nil
    · intro place key
      rw [founded.silent]
      exact Nat.zero_le _
  | get _ sought done ih => exact ih.get sought done
  | start _ sought begun ih => exact ih.start sought begun
  | move _ moves delivered ih => exact ih.move moves delivered

/-- In every state of a federation the nodes agree on the owner of every key, and each of them
holds its own keys only. A get of any node comes to its end with at most one question, and also
of gets that overlap each asks at most once. Whoever asks does not own the key, and the question
leads to the node that does. -/
theorem one_hop_one_home {traffic : Traffic} (reachable : federation.Reachable traffic) :
    (∀ server ∈ traffic.cluster.nodes,
      (∀ key, server.pool.ownerOf key = federation.owner? key) ∧
      ∀ group, server.groups.get? federation.name = some group → ∀ key ∈ group.shard.heldKeys,
        server.pool.ownerOf key = some server.pool.selfAddress) ∧
    (∀ node < traffic.cluster.nodes.length, ∀ key, Url.Undotted key → ∃ got after events,
      traffic.cluster.get ⟨node, federation.name⟩ key = some (got, after) ∧
      after.journal = events ++ traffic.cluster.journal ∧ federation.Trail node key events) ∧
    (∀ place key,
      traffic.cluster.journal.countP (Event.asks place key) ≤ traffic.gone place key) ∧
    (∀ place source key, .asked place source key ∈ traffic.cluster.journal →
      ∃ fetcher, source = .peer fetcher ∧ federation.Asks place.node key fetcher) ∧
    (∀ node key fetcher, federation.Asks node key fetcher → ∃ home server,
      federation.Owns home key ∧ traffic.cluster.nodes[home]? = some server ∧
      traffic.cluster.Serves fetcher.baseUrl home server) := by
  have settled := reachable.settled
  refine ⟨?_, ?_, settled.count, settled.questions, ?_⟩
  · intro server member
    have kept := settled.cluster.nodes server member
    refine ⟨kept.owners, fun group known key held => ?_⟩
    obtain ⟨own, same, home⟩ := kept.hosts
    obtain rfl := Option.some.inj (same.symm.trans known)
    rw [kept.owners]
    exact home.home.heldKeys key held
  · intro node bound key sought
    have inside : node < federation.peers.length := by
      rwa [← settled.cluster.addresses, List.length_map]
    obtain ⟨got, after, events, ended, _, journal, trail⟩ :=
      settled.cluster.getVia inside sought traffic.cluster.nodes.length
    exact ⟨got, after, events, ended, journal, trail⟩
  · intro node key fetcher asks
    exact settled.cluster.serves asks

/-- The sum of all bytes. -/
def byteSum : HashFunction := fun bytes => bytes.foldl (fun sum byte => sum + byte.toUInt32) 0

theorem byteSum_separate : Ring.Separate byteSum 1 ["http://a:80", "http://b:80"] := by
  have first : byteSum (toString 0 ++ "http://a:80").toUTF8.toList = 907 := by cbv
  have second : byteSum (toString 0 ++ "http://b:80").toUTF8.toList = 908 := by cbv
  intro one member other known differs i few j less
  obtain rfl := Nat.lt_one_iff.mp few
  obtain rfl := Nat.lt_one_iff.mp less
  simp only [List.mem_cons, List.not_mem_nil, or_false] at member known
  rcases member with rfl | rfl
  · obtain rfl := known.resolve_left fun same => differs same.symm
    rw [first, second]
    decide
  · obtain rfl := known.resolve_right fun same => differs same.symm
    rw [first, second]
    decide

/-- Two nodes on a ring of sums, with keys that are their own values. -/
def pair : Federation where
  base := PeerPath.defaultBase
  name := "g"
  loader := fun key => .ok (.ofText key)
  hash := byteSum
  replicas := 1
  peers := ["http://a:80", "http://b:80"]
  placed := by decide
  clean := clean_defaultBase
  named := by decide
  canonical := by
    intro address member
    simp only [List.mem_cons, List.not_mem_nil, or_false] at member
    rcases member with rfl | rfl
    · exact ⟨⟨['a'], ['8', '0'], 0, ⟨by simp [Url.endsHost], by simp, by simp⟩, rfl⟩,
        ⟨.domain "a", 80⟩, by cbv, by cbv⟩
    · exact ⟨⟨['b'], ['8', '0'], 0, ⟨by simp [Url.endsHost], by simp, by simp⟩, rfl⟩,
        ⟨.domain "b", 80⟩, by cbv, by cbv⟩
  separate := byteSum_separate

/-- The nodes list each other in different orders. -/
def pairNodes : Cluster where
  nodes := [("http://a:80", pair.peers), ("http://b:80", pair.peers.reverse)].map
    fun (address, order) => {
      pool := (Pool.new address { replicas := 1, hash := some byteSum }).set order
      groups := ⟨[{ name := "g", loader := pair.loader, shard := .lru 9, picker := some .pool }]⟩ }

theorem pairNodes_founded : pairNodes.Founded pair where
  up := rfl
  clear := rfl
  silent := rfl
  addresses := rfl
  nodes := by
    intro node member
    obtain ⟨⟨address, order⟩, listed, rfl⟩ := List.mem_map.mp member
    refine ⟨rfl, rfl, rfl, ⟨order, ?_, rfl⟩, rfl, ?_⟩
    · simp only [List.mem_cons, List.not_mem_nil, or_false] at listed
      rcases listed with same | same
      · obtain ⟨_, rfl⟩ := Prod.mk.inj same
        exact .refl _
      · obtain ⟨_, rfl⟩ := Prod.mk.inj same
        exact List.reverse_perm _
    · intro group member _
      obtain rfl := List.mem_singleton.mp member
      exact ⟨rfl, rfl, rfl⟩

/-- The second node gets a key of the first one: one question, one call of the loader, and the
key stays with its owner. -/
theorem one_hop_one_home_pair : ∃ got after, pairNodes.get ⟨1, "g"⟩ "k" = some (got, after) ∧
    after.journal = [.loaded ⟨0, "g"⟩ "k" true,
      .asked ⟨1, "g"⟩ (.peer ⟨"http://a:80/_geecache/", 3000⟩) "k"] ∧
    pair.Reachable ⟨after, [⟨⟨1, "g"⟩, "k", .done got⟩]⟩ ∧
    ∀ server ∈ after.nodes, ∀ group, server.groups.get? "g" = some group →
      ∀ key ∈ group.shard.heldKeys, server.pool.ownerOf key = some server.pool.selfAddress := by
  have asked : (pairNodes.get ⟨1, "g"⟩ "k").map (·.2.journal) =
      some [.loaded ⟨0, "g"⟩ "k" true,
        .asked ⟨1, "g"⟩ (.peer ⟨"http://a:80/_geecache/", 3000⟩) "k"] := by cbv
  obtain ⟨⟨got, after⟩, done, journal⟩ := Option.map_eq_some_iff.mp asked
  have reachable : pair.Reachable ⟨after, [⟨⟨1, "g"⟩, "k", .done got⟩]⟩ :=
    .get (.founded pairNodes_founded) (by decide) done
  refine ⟨got, after, done, journal, reachable, fun server member => ?_⟩
  exact ((one_hop_one_home reachable).1 server member).2

end Federation

end ReadThrough
