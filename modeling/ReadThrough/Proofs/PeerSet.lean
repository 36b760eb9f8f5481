import ReadThrough.Proofs.PeerChoice
import ReadThrough.Proofs.PlacingAtOnce

/-! The peers of a pool after any calls of `set`. The last list alone counts: it gives the owners,
the fetchers and the addresses, and the fetcher for a key leads to its owner. A node takes itself
for another only where the list spells its address with other slashes at the end, which the URL
for a peer leaves out. -/

namespace ReadThrough.Pool

variable {pool : Pool} {peers : List String} {key : String}

/-- The pool of a node after calls of `set`. -/
def ofCalls (selfAddress : String) (options : Options) (calls : List (List String)) : Pool :=
  calls.foldl set (new selfAddress options)

theorem set_set (pool : Pool) (first second : List String) :
    (pool.set first).set second = pool.set second := rfl

theorem new_set_nil (selfAddress : String) (options : Options) :
    (new selfAddress options).set [] = new selfAddress options := by
  simp only [set, new, Ring.add_nil]
  rfl

theorem foldl_set (pool : Pool) (peers : List String) (calls : List (List String)) :
    calls.foldl set (pool.set peers) = pool.set (calls.getLast?.getD peers) := by
  induction calls generalizing peers with
  | nil => rfl
  | cons next calls ih =>
    rw [List.foldl_cons, set_set, ih, List.getLast?_cons]
    rfl

theorem ofCalls_eq_set (selfAddress : String) (options : Options) (calls : List (List String)) :
    ofCalls selfAddress options calls =
      (new selfAddress options).set (calls.getLast?.getD []) := by
  rw [ofCalls, ← new_set_nil, foldl_set]
  rfl

theorem fetched_set (pool : Pool) (peers : List String) :
    (pool.set peers).fetchers.map (·.1) = peers.eraseDups := by
  simp [set, Function.comp_def]

theorem mem_peers_set {peer : String} : peer ∈ (pool.set peers).peers ↔ peer ∈ peers := by
  rw [Pool.peers, List.mem_mergeSort, fetched_set, List.mem_eraseDups]

theorem nodup_eraseDups {α : Type} [DecidableEq α] (items : List α) : items.eraseDups.Nodup := by
  induction items using List.reverseRecOn with
  | nil => exact List.nodup_nil
  | append_singleton items item ih =>
    rw [Ring.eraseDups_concat]
    split
    next => exact ih
    next fresh =>
      rw [← List.concat_eq_append]
      exact ih.concat fun repeated => fresh (List.mem_eraseDups.mp repeated)

theorem peers_set_ascend (pool : Pool) (peers : List String) :
    (pool.set peers).peers.Pairwise (· < ·) := by
  have trans (first second third : String) : decide (first ≤ second) = true →
      decide (second ≤ third) = true → decide (first ≤ third) = true := by
    simpa using le_trans
  have total (first second : String) :
      (decide (first ≤ second) || decide (second ≤ first)) = true := by
    simpa using le_total first second
  have sorted : (pool.set peers).peers.Pairwise (· ≤ ·) := by
    simpa [Pool.peers] using
      List.pairwise_mergeSort trans total ((pool.set peers).fetchers.map (·.1))
  have distinct : (pool.set peers).peers.Nodup := by
    rw [Pool.peers, fetched_set]
    exact (List.mergeSort_perm _ _).nodup_iff.mpr (nodup_eraseDups peers)
  exact (sorted.and distinct).imp fun both => lt_of_le_of_ne both.1 both.2

theorem pick_set_eq_some {fetcher : Fetcher} : (pool.set peers).pick key = some fetcher ↔
    ∃ owner, (pool.set peers).ownerOf key = some owner ∧ owner ≠ pool.selfAddress ∧
      fetcher = pool.fetcherFor owner := by
  rw [pick_set, toOwner, Option.bind_eq_some_iff]
  refine exists_congr fun owner => and_congr_right fun _ => ?_
  change (if owner = pool.selfAddress then none else some (pool.fetcherFor owner)) =
    some fetcher ↔ _
  by_cases own : owner = pool.selfAddress
  · simp [own]
  · simp [own, eq_comm]

theorem ownerOf_set_singleton (pool : Pool) (placed : 0 < pool.options.replicas)
    (peer key : String) : (pool.set [peer]).ownerOf key = some peer := by
  obtain ⟨owner, owned⟩ := Ring.exists_owner placed (List.mem_singleton_self peer) key
  rw [ownerOf_set, owned, List.mem_singleton.mp (Ring.owner?_mem owned)]

/-- After any calls of `set` the owners are those of a ring of the last list. For a key that another
owns, and for no other, the pool picks the fetcher with the URL of the owner. The owners are among
the peers, and the peers are the last list, ascending and each once. -/
theorem pick_follows_owner (selfAddress : String) (options : Options)
    (calls : List (List String)) :
    let pool := ofCalls selfAddress options calls
    let last := calls.getLast?.getD []
    (∀ key, pool.ownerOf key = (Ring.ofPeers (options.hash.getD Checksum.crc32)
      options.replicas last).owner? key) ∧
    (∀ key fetcher, pool.pick key = some fetcher ↔ ∃ owner, pool.ownerOf key = some owner ∧
      owner ≠ selfAddress ∧ fetcher =
        { baseUrl := PeerPath.baseUrl owner (PeerPath.normalizeBase options.basePath)
          timeoutMs := options.timeoutMs }) ∧
    (∀ key, ∀ owner ∈ pool.ownerOf key, owner ∈ pool.peers) ∧
    (∀ peer, peer ∈ pool.peers ↔ peer ∈ last) ∧ pool.peers.Pairwise (· < ·) := by
  intro pool last
  have replaced : pool = (new selfAddress options).set last := ofCalls_eq_set _ _ calls
  rw [replaced]
  refine ⟨ownerOf_set _ last, fun key fetcher => pick_set_eq_some, ?_, fun peer => mem_peers_set,
    peers_set_ascend _ last⟩
  intro key owner owned
  exact mem_peers_set.mpr (Ring.owner?_mem owned)

/-- The first list is forgotten: its only peer neither owns a key nor is asked for one. -/
theorem pick_follows_owner_replaced :
    let pool := ofCalls "http://a:80" {} [["http://c:80"], ["http://b:80"]]
    pool.ownerOf "k" = some "http://b:80" ∧ "http://b:80" ∈ pool.peers ∧
      ∃ fetcher, pool.pick "k" = some fetcher ∧
        fetcher.baseUrl = PeerPath.baseUrl "http://b:80" (PeerPath.normalizeBase "/_geecache/") := by
  intro pool
  have owned : pool.ownerOf "k" = some "http://b:80" := ownerOf_set_singleton
    ((new "http://a:80" {}).set ["http://c:80"]) (by decide) "http://b:80" "k"
  obtain ⟨_, picks, known, _⟩ :=
    pick_follows_owner "http://a:80" {} [["http://c:80"], ["http://b:80"]]
  exact ⟨owned, known "k" _ owned, _, (picks "k" _).mpr ⟨_, owned, by decide, rfl⟩, rfl⟩

/-- Another spelling of an address: only the slashes at the end differ. -/
def Respelled (peer address : String) : Prop :=
  peer ≠ address ∧ PeerPath.dropTrailingSlashes peer.toList =
    PeerPath.dropTrailingSlashes address.toList

theorem baseUrl_eq_iff {peer address base : String} :
    PeerPath.baseUrl peer base = PeerPath.baseUrl address base ↔
      PeerPath.dropTrailingSlashes peer.toList =
        PeerPath.dropTrailingSlashes address.toList := by
  rw [PeerPath.baseUrl, PeerPath.baseUrl, String.append_left_inj, String.ofList_inj]

/-- A node that looks for the owner of a key is led back to itself exactly if the owner's address
is another spelling of its own, so never if the list holds no other spelling. -/
theorem led_back_iff (selfAddress : String) (options : Options) (peers : List String) :
    let pool := (new selfAddress options).set peers
    let ownUrl := PeerPath.baseUrl selfAddress pool.basePath
    (∀ key, (∃ fetcher, pool.pick key = some fetcher ∧ fetcher.baseUrl = ownUrl) ↔
      ∃ owner, pool.ownerOf key = some owner ∧ Respelled owner selfAddress) ∧
    ((∀ peer ∈ peers, ¬Respelled peer selfAddress) →
      ∀ key fetcher, pool.pick key = some fetcher → fetcher.baseUrl ≠ ownUrl) := by
  intro pool ownUrl
  have led (key : String) : (∃ fetcher, pool.pick key = some fetcher ∧ fetcher.baseUrl = ownUrl) ↔
      ∃ owner, pool.ownerOf key = some owner ∧ Respelled owner selfAddress := by
    constructor
    · rintro ⟨fetcher, picked, same⟩
      obtain ⟨owner, owned, other, rfl⟩ := pick_set_eq_some.mp picked
      exact ⟨owner, owned, other, baseUrl_eq_iff.mp same⟩
    · rintro ⟨owner, owned, other, same⟩
      exact ⟨_, pick_set_eq_some.mpr ⟨owner, owned, other, rfl⟩, baseUrl_eq_iff.mpr same⟩
  refine ⟨led, fun only key fetcher picked same => ?_⟩
  obtain ⟨owner, owned, respelled⟩ := (led key).mp ⟨fetcher, picked, same⟩
  exact only owner (Ring.owner?_mem owned) respelled

/-- Slashes behind another address do no harm. -/
theorem led_back_iff_elsewhere : (∀ peer ∈ ["http://b:80/"], ¬Respelled peer "http://a:80") ∧
    ∃ fetcher, ((new "http://a:80" {}).set ["http://b:80/"]).pick "k" = some fetcher ∧
      fetcher.baseUrl ≠ PeerPath.baseUrl "http://a:80"
        ((new "http://a:80" {}).set ["http://b:80/"]).basePath := by
  have elsewhere : ∀ peer ∈ ["http://b:80/"], ¬Respelled peer "http://a:80" := by
    intro peer listed
    rw [List.mem_singleton.mp listed, Respelled]
    decide
  have owned := ownerOf_set_singleton (new "http://a:80" {}) (by decide) "http://b:80/" "k"
  have picked := pick_set_eq_some.mpr ⟨_, owned, by decide, rfl⟩
  exact ⟨elsewhere, _, picked, (led_back_iff "http://a:80" {} _).2 elsewhere "k" _ picked⟩

/-- A node that is listed with a slash behind its address asks itself. -/
theorem slash_leads_back :
    ((new "http://a:80" {}).set ["http://a:80/"]).pick "k" =
      some ⟨"http://a:80/_geecache/", 3000⟩ ∧
    PeerPath.baseUrl "http://a:80" ((new "http://a:80" {}).set ["http://a:80/"]).basePath =
      "http://a:80/_geecache/" := by
  have owned := ownerOf_set_singleton (new "http://a:80" {}) (by decide) "http://a:80/" "k"
  have slashed : PeerPath.baseUrl "http://a:80/" (PeerPath.normalizeBase PeerPath.defaultBase) =
      "http://a:80/_geecache/" := by cbv
  have plain : PeerPath.baseUrl "http://a:80" (PeerPath.normalizeBase PeerPath.defaultBase) =
      "http://a:80/_geecache/" := by cbv
  refine ⟨pick_set_eq_some.mpr ⟨_, owned, by decide, ?_⟩, plain⟩
  rw [← slashed]
  rfl

end ReadThrough.Pool
