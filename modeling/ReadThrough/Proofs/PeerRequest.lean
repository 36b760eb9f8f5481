import Mathlib
import ReadThrough.Proofs.ClusterCalls
import ReadThrough.Proofs.RequestPath

/-! Requests to a peer whose address is a host and a port. The URL of such a request is read as
that of the address with a longer path, so it ends where the address leads; there the answer is
what a get gave for the group and the key that were asked for. -/

namespace ReadThrough

namespace Url

/-- A host and a port, as in `host:port`. -/
structure IsAuthority (host port : List Char) : Prop where
  unmarkedHost : ∀ char ∈ host, endsHost true char = false ∧ char ≠ '@'
  digits : ∀ char ∈ port, char.isDigit = true
  someDigit : port ≠ []

/-- The address `http://host:port`, perhaps with slashes behind it. -/
def IsPeerAddress (address : String) : Prop :=
  ∃ host port slashes, IsAuthority host port ∧
    address.toList = "http://".toList ++ (host ++ ':' :: port) ++ List.replicate slashes '/'

theorem strip_eq_filter {text : List Char} (first : ∀ char ∈ text.head?, isBlank char = false)
    (last : ∀ char ∈ text.getLast?, isBlank char = false) :
    strip text = text.filter (!isBreak ·) := by
  have keep (text : List Char) (first : ∀ char ∈ text.head?, isBlank char = false) :
      text.dropWhile isBlank = text := by
    cases text with
    | nil => rfl
    | cons char rest => exact List.dropWhile_cons_of_neg (by simp [first char rfl])
  rw [strip, keep text first, keep text.reverse (by simpa using last), List.reverse_reverse]

theorem splitScheme?_http (rest : List Char) :
    splitScheme? ("http:".toList ++ rest) = some ("http", rest) := rfl

/-- An authority is cut off where the path begins. -/
theorem parse_http {text : String} {authority rest : List Char}
    (stripped : strip text.toList = "http:".toList ++ ('/' :: '/' :: (authority ++ rest)))
    (some : authority ≠ []) (inside : ∀ char ∈ authority, endsHost true char = false)
    (ends : ∀ char ∈ rest.head?, char = '/') :
    parse text = ofAuthority "http" authority rest := by
  have begins : ('/' :: '/' :: (authority ++ rest)).dropWhile isSlash = authority ++ rest := by
    obtain ⟨first, others, rfl⟩ := List.exists_cons_of_ne_nil some
    have host := inside first List.mem_cons_self
    have noSlash : isSlash first = false := by
      simp only [endsHost, isSlash, Bool.or_eq_false_iff] at host ⊢
      exact ⟨host.1.1.1, by simpa using host.2⟩
    rw [List.dropWhile_cons_of_pos rfl, List.dropWhile_cons_of_pos rfl, List.cons_append,
      List.dropWhile_cons_of_neg (by simp [noSlash])]
  have part (p : Char → Bool) (stops : p '/' = false) :
      rest.takeWhile p = [] ∧ rest.dropWhile p = rest := by
    cases rest with
    | nil => exact ⟨rfl, rfl⟩
    | cons char rest =>
      obtain rfl := ends char rfl
      simp [stops]
  have before : ∀ char ∈ authority, (!endsHost true char) = true := by
    intro char member
    rw [inside char member]
    rfl
  have known : (knownPort? "http").isSome = true := rfl
  simp only [parse, stripped, splitScheme?_http, known, if_true, begins,
    List.takeWhile_append_of_pos before, List.dropWhile_append_of_pos before,
    part (!endsHost true ·) rfl, List.append_nil]
  rfl

theorem splitPort_append (inside : Bool) (text : List Char) :
    (splitPort inside text).1 ++ (splitPort inside text).2 = text := by
  fun_induction splitPort inside text with
  | case1 => rfl
  | case2 => rfl
  | case3 inside char rest _ _ _ _ split ih =>
    rw [split] at ih
    exact congrArg (char :: ·) ih

/-- What follows an authority does not change how it is read. -/
theorem ofAuthority_eq_map {authority : List Char} (noCredentials : '@' ∉ authority)
    (noBackslash : '\\' ∉ authority) (scheme : String) (rest : List Char) :
    ofAuthority scheme authority rest =
      (ofAuthority scheme authority []).map fun url => { url with scheme, rest } := by
  have behind : (splitPort false authority).2.dropWhile (· ≠ '\\') = [] := by
    refine List.dropWhile_eq_nil_iff.mpr fun char member => ?_
    have inside : char ∈ authority := by
      rw [← splitPort_append false authority]
      exact List.mem_append_right _ member
    have differs : char ≠ '\\' := fun same => noBackslash (same ▸ inside)
    simpa using differs
  simp only [ofAuthority, splitCredentials, if_neg noCredentials, behind, reduceCtorEq, false_and,
    if_false, bind, Except.bind, pure, Except.pure]
  split
  next => rfl
  next parsed _ =>
    split
    next => rfl
    next =>
      split
      next => rfl
      next =>
        simp only [Option.any_none, Bool.false_eq_true, and_false, if_false]
        rfl

theorem getLast?_not_blank (front : List Char) {back : List Char} (some : back ≠ [])
    (inked : ∀ char ∈ back, isBlank char = false) :
    ∀ char ∈ (front ++ back).getLast?, isBlank char = false := by
  intro char last
  rw [List.getLast?_append_of_ne_nil _ some] at last
  exact inked char (List.mem_of_getLast? last)

namespace IsAuthority

variable {host port : List Char}

theorem unmarked (authority : IsAuthority host port) :
    ∀ char ∈ host ++ ':' :: port, endsHost true char = false ∧ char ≠ '@' := by
  intro char member
  rcases List.mem_append.mp member with inHost | behind
  · exact authority.unmarkedHost char inHost
  rcases List.mem_cons.mp behind with rfl | inPort
  · decide
  · have digit := authority.digits char inPort
    constructor
    · refine Bool.eq_false_iff.mpr fun mark => ?_
      simp only [endsHost, Bool.true_and, Bool.or_eq_true, decide_eq_true_eq] at mark
      rcases mark with ((rfl | rfl) | rfl) | rfl
      all_goals exact absurd digit (by decide)
    · rintro rfl
      exact absurd digit (by decide)

/-- A URL is read as the authority says, with what follows it as its rest. -/
theorem parse (authority : IsAuthority host port) {text : String} {rest : List Char}
    (written : text.toList = "http://".toList ++ (host ++ ':' :: port) ++ rest)
    (begins : ∀ char ∈ rest.head?, char = '/')
    (last : ∀ char ∈ text.toList.getLast?, isBlank char = false) :
    Url.parse text = (ofAuthority "http" ((host ++ ':' :: port).filter (!isBreak ·)) []).map
      fun url => { url with scheme := "http", rest := rest.filter (!isBreak ·) } := by
  have inside : ∀ char ∈ (host ++ ':' :: port).filter (!isBreak ·),
      endsHost true char = false ∧ char ≠ '@' :=
    fun char member => authority.unmarked char (List.mem_filter.mp member).1
  have colon : ':' ∈ (host ++ ':' :: port).filter (!isBreak ·) :=
    List.mem_filter.mpr ⟨by simp, rfl⟩
  have stripped : strip text.toList = "http:".toList ++ ('/' :: '/' ::
      ((host ++ ':' :: port).filter (!isBreak ·) ++ rest.filter (!isBreak ·))) := by
    rw [strip_eq_filter ?_ last, written, List.filter_append, List.filter_append]
    · rfl
    · rw [written]
      intro char first
      obtain rfl : 'h' = char := by simpa using first
      rfl
  rw [parse_http stripped (List.ne_nil_of_mem colon) (fun char member => (inside char member).1) ?_]
  · refine ofAuthority_eq_map (fun at_ => (inside '@' at_).2 rfl) (fun slash => ?_) "http" _
    exact absurd (inside '\\' slash).1 (by decide)
  · cases rest with
    | nil => simp
    | cons char rest =>
      obtain rfl := begins char rfl
      simp [isBreak]

theorem port_unmarked (authority : IsAuthority host port) :
    ∀ char ∈ port, isBlank char = false ∧ char ≠ '/' := by
  intro char member
  have digit := authority.digits char member
  constructor
  · refine Bool.eq_false_iff.mpr fun blank => ?_
    simp only [isBlank, decide_eq_true_eq, Char.isDigit, Bool.and_eq_true, UInt32.le_iff_toNat_le,
      Char.toNat] at blank digit
    have zero : 48 ≤ char.val.toNat := digit.1
    omega
  · rintro rfl
    exact absurd digit (by decide)

theorem dropTrailingSlashes (authority : IsAuthority host port) (front : List Char)
    (slashes : Nat) :
    PeerPath.dropTrailingSlashes (front ++ (host ++ ':' :: port) ++ List.replicate slashes '/') =
      front ++ (host ++ ':' :: port) := by
  obtain ⟨others, digit, rfl⟩ := (List.eq_nil_or_concat port).resolve_left authority.someDigit
  have differs := (authority.port_unmarked digit (by simp)).2
  simp only [PeerPath.dropTrailingSlashes, List.reverse_append, List.reverse_replicate]
  rw [List.dropWhile_append_of_pos (by simp)]
  simp [differs]

end IsAuthority

theorem effectivePort?_http {url : Url} (http : url.scheme = "http") :
    url.effectivePort? = some (url.port.getD 80) := by
  rw [effectivePort?, http]
  cases url.port <;> rfl

end Url

namespace PeerPath
open Url

theorem head?_normalizeBase (base : String) : (normalizeBase base).toList.head? = some '/' := by
  unfold normalizeBase
  split
  next => rfl
  next => simp

/-- Whatever follows the address of a peer is the rest of a URL that is read as the address is. -/
theorem parse_baseUrl {address : String} (peer : IsPeerAddress address) :
    ∃ (parsed : Except Url.Error Url) (slashes : List Char),
      Url.parse address = (parsed.map fun url => { url with scheme := "http", rest := slashes }) ∧
      ∀ rest : String, rest.toList.head? = some '/' →
        (∀ char ∈ rest.toList.getLast?, isBlank char = false) →
        Url.parse (baseUrl address rest) = parsed.map fun url =>
          { url with scheme := "http", rest := rest.toList.filter (!isBreak ·) } := by
  obtain ⟨host, port, slashes, authority, written⟩ := peer
  have inked : ∀ char ∈ port ++ List.replicate slashes '/', isBlank char = false := by
    intro char member
    rcases List.mem_append.mp member with inPort | slash
    · exact (authority.port_unmarked char inPort).1
    · rw [List.eq_of_mem_replicate slash]
      rfl
  refine ⟨_, _, authority.parse written ?_ ?_, fun rest first last => ?_⟩
  · cases slashes <;> simp [List.replicate_succ]
  · have tail := getLast?_not_blank ("http://".toList ++ host ++ [':'])
      (List.append_ne_nil_of_left_ne_nil authority.someDigit _) inked
    simpa [written] using tail
  · have text : (baseUrl address rest).toList =
        "http://".toList ++ (host ++ ':' :: port) ++ rest.toList := by
      simp only [baseUrl, String.toList_append, String.toList_ofList, written,
        authority.dropTrailingSlashes]
    have some : rest.toList ≠ [] := by
      intro none
      rw [none] at first
      nomatch first
    apply authority.parse text
    · intro char begins
      exact Option.some.inj (begins.symm.trans first)
    · rwa [text, List.getLast?_append_of_ne_nil _ some]

theorem toList_fetchUrl (base group key : String) : (fetchUrl base group key).toList =
    base.toList ++ (Percent.encodeChars group.toList ++ '/' ::
      Percent.encodeChars key.toList) := by
  simp [fetchUrl, Percent.encode]

theorem inked_of_asked (group key : String) : ∀ char ∈ Percent.encodeChars group.toList ++ '/' ::
    Percent.encodeChars key.toList, isBlank char = false ∧ isBreak char = false := by
  intro char member
  rcases List.mem_append.mp member with inGroup | behind
  · exact (unmarked_of_plain (plain_encodeChars _ char inGroup)).2.imp_right And.left
  · rcases List.mem_cons.mp behind with rfl | inKey
    · decide
    · exact (unmarked_of_plain (plain_encodeChars _ char inKey)).2.imp_right And.left

theorem filter_asked (group key : String) :
    (Percent.encodeChars group.toList ++ '/' :: Percent.encodeChars key.toList).filter
      (!isBreak ·) = Percent.encodeChars group.toList ++ '/' :: Percent.encodeChars key.toList := by
  refine List.filter_eq_self.mpr fun char member => ?_
  rw [(inked_of_asked group key char member).2]
  rfl

/-- The URL for a group and a key is read as the address is, with a rest of its own. -/
theorem parse_fetchUrl {address : String} (peer : IsPeerAddress address) (base group key : String) :
    ∃ (parsed : Except Url.Error Url) (slashes : List Char),
      Url.parse address = (parsed.map fun url => { url with scheme := "http", rest := slashes }) ∧
      Url.parse (fetchUrl (baseUrl address (normalizeBase base)) group key) =
        parsed.map fun url => { url with scheme := "http", rest := asked base group key } := by
  obtain ⟨parsed, slashes, ofAddress, ofUrl⟩ := parse_baseUrl peer
  refine ⟨parsed, slashes, ofAddress, ?_⟩
  have text : fetchUrl (baseUrl address (normalizeBase base)) group key =
      baseUrl address (fetchUrl (normalizeBase base) group key) := by
    simp only [fetchUrl, baseUrl, String.append_assoc]
  rw [text, ofUrl, toList_fetchUrl, List.filter_append, filter_asked]
  · rfl
  · rw [toList_fetchUrl, List.head?_append, head?_normalizeBase]
    rfl
  · rw [toList_fetchUrl]
    exact getLast?_not_blank _ (by simp) fun char member =>
      (inked_of_asked group key char member).1

end PeerPath

namespace Cluster
open PeerPath

variable {cluster after : Cluster} {address : String} {value : Payload}

/-- A request for a group and a key goes where the address of the peer leads. -/
theorem route_fetchUrl (peer : Url.IsPeerAddress address) (cluster : Cluster)
    (base group key : String) :
    (∃ (endpoint : Endpoint) (target : Url), Endpoint.ofAddress address = .ok endpoint ∧
      target.rest = asked base group key ∧
      cluster.route (fetchUrl (baseUrl address (normalizeBase base)) group key) =
        cluster.routeTo endpoint target.requestPath) ∨
    cluster.route (fetchUrl (baseUrl address (normalizeBase base)) group key) =
      .ended (.error (.request false)) := by
  obtain ⟨parsed, slashes, ofAddress, ofUrl⟩ := parse_fetchUrl peer base group key
  cases up : cluster.network.link with
  | down => exact .inr (by simp [route, up])
  | up =>
    cases parsed with
    | error error => exact .inr (by simp [route, up, ofUrl, Except.map])
    | ok url =>
      cases host : url.host with
      | none => exact .inr (by simp [route, up, ofUrl, Except.map, Endpoint.ofUrl?, host])
      | some found =>
        refine .inl ⟨⟨found, url.port.getD 80⟩,
          { url with scheme := "http", rest := asked base group key }, ?_, rfl, ?_⟩
        · simp [Endpoint.ofAddress, ofAddress, Except.map, Except.mapError, bind, Except.bind, host,
            Url.effectivePort?_http]
          rfl
        · simp [route, up, ofUrl, Except.map, Endpoint.ofUrl?, host, Url.effectivePort?_http]

theorem routeTo_eq_toNode {endpoint : Endpoint} {path resolved : String} {node : Nat}
    (routed : cluster.routeTo endpoint path = .toNode node resolved) :
    cluster.network.faults.lookup endpoint = none ∧
      cluster.nodes.findIdx? (fun node => node.endpoint? = some endpoint) = some node ∧
      resolved = path := by
  unfold routeTo at routed
  split at routed
  next => nomatch routed
  next clear =>
    split at routed
    next found =>
      obtain ⟨rfl, rfl⟩ := Route.toNode.inj routed
      exact ⟨clear, found, rfl⟩
    next => nomatch routed

theorem routeTo_eq_ended {endpoint : Endpoint} {path : String}
    (routed : cluster.routeTo endpoint path = .ended (.ok value)) :
    ∃ fault, cluster.network.faults.lookup endpoint = some fault ∧ fault.fetched = .ok value := by
  unfold routeTo at routed
  split at routed
  next fault placed => exact ⟨fault, placed, Route.ended.inj routed⟩
  next => split at routed <;> nomatch routed

/-- The node that an address leads to, when no fault stands in its place. -/
def AnswersAt (cluster : Cluster) (address : String) (node : Nat) : Prop :=
  ∃ endpoint, Endpoint.ofAddress address = .ok endpoint ∧
    cluster.network.faults.lookup endpoint = none ∧
    cluster.nodes.findIdx? (fun node => node.endpoint? = some endpoint) = some node

section

variable {fetcher : Fetcher} {base group key : String}

/-- A value on the way is that of a fault at the peer's address. -/
theorem route_eq_ended (peer : Url.IsPeerAddress address)
    (below : fetcher.baseUrl = baseUrl address (normalizeBase base))
    (routed : cluster.route (fetchUrl fetcher.baseUrl group key) = .ended (.ok value)) :
    ∃ endpoint fault, Endpoint.ofAddress address = .ok endpoint ∧
      cluster.network.faults.lookup endpoint = some fault ∧ fault.fetched = .ok value := by
  rw [below] at routed
  rcases route_fetchUrl peer cluster base group key with ⟨endpoint, _, found, _, led⟩ | lost
  · obtain ⟨fault, placed, given⟩ := routeTo_eq_ended (led.symm.trans routed)
    exact ⟨endpoint, fault, found, placed, given⟩
  · nomatch lost.symm.trans routed

/-- A request that reaches a node reaches the one at the peer's address, and if that node reads
a group and a key, they are those that were asked for, unless the key is left out. -/
theorem route_eq_toNode (peer : Url.IsPeerAddress address)
    (below : fetcher.baseUrl = baseUrl address (normalizeBase base)) {node : Nat} {path : String}
    (routed : cluster.route (fetchUrl fetcher.baseUrl group key) = .toNode node path) :
    cluster.AnswersAt address node ∧ ∀ name sought,
      parse (normalizeBase base) path = .ok (name, sought) →
      name = group ∧ (sought = key ∨ sought = "") := by
  rw [below] at routed
  rcases route_fetchUrl peer cluster base group key with
    ⟨endpoint, target, found, rest, led⟩ | lost
  · obtain ⟨clear, standing, rfl⟩ := routeTo_eq_toNode (led.symm.trans routed)
    exact ⟨⟨endpoint, found, clear, standing⟩, fun _ _ parsed => parse_requestPath rest parsed⟩
  · nomatch lost.symm.trans routed

theorem getVia_empty {ask : Ask} {place : Place} {got : Group.Got}
    (done : cluster.getVia ask place "" = some (got, after)) : got = .error .keyRequired := by
  obtain ⟨started, before, begun, done⟩ := getVia_eq_some done
  obtain ⟨group, _, rfl, _⟩ := start_eq_some begun
  exact (Prod.mk.inj (Option.some.inj done)).1.symm

/-- A value that a peer gives is a fault's, or what the node at the peer's address got for the
group and the key that were asked for. -/
theorem fetchWithin_eq_ok (peer : Url.IsPeerAddress address)
    (below : fetcher.baseUrl = baseUrl address (normalizeBase base)) {hops : Nat}
    (fetched : fetchWithin (hops + 1) cluster fetcher group key = some (.ok value, after)) :
    (∃ endpoint fault, Endpoint.ofAddress address = .ok endpoint ∧
      cluster.network.faults.lookup endpoint = some fault ∧ fault.fetched = .ok value) ∨
    ∃ node server, cluster.AnswersAt address node ∧ cluster.nodes[node]? = some server ∧
      (server.pool.basePath = normalizeBase base →
        cluster.getVia (fetchWithin hops) ⟨node, group⟩ key = some (.ok value, after)) := by
  rcases fetchWithin_eq_some fetched with ⟨ended, _⟩ | ⟨node, path, served, routed, answered, same⟩
  · exact .inl (route_eq_ended peer below ended)
  have ⟨answers, named⟩ := route_eq_toNode peer below routed
  rcases serveVia_eq_some answered with
    ⟨_, _, rfl⟩ | ⟨server, name, sought, got, hosted, parsed, done, rfl⟩
  · nomatch Fetched.eq_ok_of_ofServed same.symm
  · refine .inr ⟨node, server, answers, hosted, fun shared => ?_⟩
    obtain rfl := Fetched.eq_ok_of_got same.symm
    obtain ⟨rfl, rfl | rfl⟩ := named name sought (shared ▸ parsed)
    · exact done
    · nomatch getVia_empty done

end

/-- A value that a pool fetches from a peer is what the node at the peer's address got, during
the request, for exactly the group and the key that were asked for, whatever their names are. -/
theorem fetched_is_got (peer : Url.IsPeerAddress address) {node hops : Nat} {server : Node}
    {pool : Pool} {group key : String} (answers : cluster.AnswersAt address node)
    (hosted : cluster.nodes[node]? = some server) (shared : server.pool.basePath = pool.basePath)
    (fetched : fetchWithin (hops + 1) cluster (pool.fetcherFor address) group key =
      some (.ok value, after)) :
    cluster.getVia (fetchWithin hops) ⟨node, group⟩ key = some (.ok value, after) := by
  obtain ⟨endpoint, found, clear, standing⟩ := answers
  rcases fetchWithin_eq_ok peer rfl fetched with
    ⟨_, _, again, placed, _⟩ | ⟨_, _, ⟨_, again, _, only⟩, there, got⟩
  · obtain rfl := Except.ok.inj (found.symm.trans again)
    nomatch clear.symm.trans placed
  · obtain rfl := Except.ok.inj (found.symm.trans again)
    obtain rfl := Option.some.inj (standing.symm.trans only)
    obtain rfl := Option.some.inj (hosted.symm.trans there)
    exact got shared

/-- One node at `http://a:80` whose group takes every key for its own value. -/
def echo : Cluster where
  nodes := [{
    pool := .new "http://a:80" { hash := some fun _ => 0 }
    groups := ⟨[{ name := "g", loader := fun key => .ok (.ofText key), shard := .lru 0 }]⟩ }]

/-- A pool that knows another node finds a key with a slash in it there. -/
theorem fetched_is_got_slash : ∃ after,
    fetchWithin 1 echo ((Pool.new "http://b:80" {}).fetcherFor "http://a:80/") "g" "a/b" =
      some (.ok (.ofText "a/b"), after) ∧
    echo.getVia (fetchWithin 0) ⟨0, "g"⟩ "a/b" = some (.ok (.ofText "a/b"), after) := by
  have fetched : (fetchWithin 1 echo ((Pool.new "http://b:80" {}).fetcherFor "http://a:80/") "g"
      "a/b").map (·.1) = some (.ok (.ofText "a/b")) := by cbv
  obtain ⟨⟨_, after⟩, done, rfl⟩ := Option.map_eq_some_iff.mp fetched
  refine ⟨after, done, fetched_is_got ?_ ?_ rfl rfl done⟩
  · exact ⟨['a'], ['8', '0'], 1, ⟨by simp [Url.endsHost], by simp, by simp⟩, rfl⟩
  · exact ⟨⟨.domain "a", 80⟩, by cbv, rfl, by cbv⟩

end Cluster

end ReadThrough
