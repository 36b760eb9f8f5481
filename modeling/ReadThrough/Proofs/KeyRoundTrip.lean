import Mathlib
import ReadThrough.Proofs.LongerUrl
import ReadThrough.Proofs.PeerRequest

/-! Groups and keys on their way to a peer and back. Below a base path of plain segments every
group and key arrives as it was sent, except for names of one or two dots: encoding leaves dots
as they are, and resolving the URL takes such a segment away. Everything else comes to what a
get of the asked node comes to. -/

namespace ReadThrough

namespace Url

theorem dots_of_unmarked {segment : List Char} (unmarked : '%' ∉ segment) {count : Nat}
    (dotted : dots segment = some count) : segment = List.replicate count '.' := by
  fun_induction dots segment generalizing count with
  | case1 =>
    obtain rfl := Option.some.inj dotted
    rfl
  | case2 rest ih =>
    obtain ⟨fewer, inside, rfl⟩ := Option.map_eq_some_iff.mp dotted
    rw [List.replicate_succ, ← ih (fun member => unmarked (List.mem_cons_of_mem _ member)) inside]
  | case3 => simp at unmarked
  | case4 => simp at unmarked
  | case5 => nomatch dotted

theorem dots_cons_of_ne {first : Char} (noDot : first ≠ '.') (noSign : first ≠ '%')
    (rest : List Char) : dots (first :: rest) = none := by
  unfold dots
  split
  next same => exact absurd same (List.cons_ne_nil _ _)
  next same => exact absurd (List.cons.inj same).1 noDot
  next same => exact absurd (List.cons.inj same).1 noSign
  next same => exact absurd (List.cons.inj same).1 noSign
  next => rfl

/-- An escape that encoding writes does not stand for a dot, because dots are not escaped. -/
theorem dots_escape {byte : UInt8} (reserved : Percent.unreserved (Char.ofUInt8 byte) = false)
    (rest : List Char) : dots (Percent.escape byte ++ rest) = none := by
  have two : ∀ value < 16, Hex.upper value = '2' → value = 2 := by decide
  have small : ∀ value < 16, Hex.upper value ≠ 'e' := by decide
  have fourteen : ∀ value < 16, Hex.upper value = 'E' → value = 14 := by decide
  have bound := byte.toNat_lt
  have differs : ¬(Hex.upper (byte.toNat / 16) = '2' ∧ Hex.upper (byte.toNat % 16) = 'E') := by
    rintro ⟨high, low⟩
    have highValue := two _ (by omega) high
    have lowValue := fourteen _ (by omega) low
    have dot : byte = 0x2e := by
      apply UInt8.toNat_inj.mp
      change byte.toNat = 46
      omega
    rw [dot] at reserved
    exact absurd reserved (by decide)
  have lower := small (byte.toNat % 16) (by omega)
  simp only [Percent.escape, List.cons_append, List.nil_append]
  unfold dots
  split
  next same => exact absurd same (List.cons_ne_nil _ _)
  next same => exact absurd (List.cons.inj same).1 (by decide)
  next same => exact absurd (List.cons.inj (List.cons.inj (List.cons.inj same).2).2).1 lower
  next same =>
    obtain ⟨high, tail⟩ := List.cons.inj (List.cons.inj same).2
    exact absurd ⟨high, (List.cons.inj tail).1⟩ differs
  next => rfl

theorem encodeChars_cons (char : Char) (rest : List Char) : Percent.encodeChars (char :: rest) =
    (String.utf8EncodeChar char).flatMap Percent.encodeByte ++ Percent.encodeChars rest := by
  simp only [Percent.encodeChars, Utf8.encode, List.flatMap_cons, List.flatMap_append]

/-- Only dots are sent as dots. -/
theorem dots_encodeChars {text : List Char} {count : Nat}
    (dotted : dots (Percent.encodeChars text) = some count) : text = List.replicate count '.' := by
  induction text generalizing count with
  | nil =>
    obtain rfl := Option.some.inj dotted
    rfl
  | cons char rest ih =>
    by_cases dot : char = '.'
    · subst dot
      obtain ⟨fewer, inside, rfl⟩ := Option.map_eq_some_iff.mp dotted
      rw [List.replicate_succ, ← ih inside]
    · obtain ⟨byte, others, bytes⟩ :=
        List.exists_cons_of_ne_nil (String.utf8EncodeChar_ne_nil (c := char))
      rw [encodeChars_cons, bytes, List.flatMap_cons, List.append_assoc] at dotted
      cases plain : Percent.unreserved (Char.ofUInt8 byte) with
      | false =>
        rw [Percent.encodeByte, plain, if_neg Bool.false_ne_true, dots_escape plain] at dotted
        cases dotted
      | true =>
        have small : byte.toNat < 128 := by
          have written : Percent.written (Char.ofUInt8 byte) = true := by
            simp [Percent.written, plain]
          have ascii := Percent.ascii_of_written written
          simpa [Char.ofUInt8, Char.toNat] using ascii
        have value := Utf8.toNat_of_mem_utf8EncodeChar (bytes ▸ List.mem_cons_self) small
        have same := Percent.ofUInt8_ofNat (value ▸ small : char.toNat < 128)
        rw [value, UInt8.ofNat_toNat] at same
        rw [Percent.encodeByte, if_pos plain, same, List.singleton_append,
          dots_cons_of_ne dot] at dotted
        · cases dotted
        · rintro rfl
          rw [same] at plain
          exact absurd plain (by decide)

/-- A name that no URL takes for a step within its path. -/
abbrev Undotted (name : String) : Prop := name ≠ "." ∧ name ≠ ".."

theorem stays_encodeChars_iff {name : String} :
    Stays (Percent.encodeChars name.toList) ↔ Undotted name := by
  constructor
  · rintro ⟨one, two⟩
    constructor
    · rintro rfl
      exact one (by cbv)
    · rintro rfl
      exact two (by cbv)
  · rintro ⟨one, two⟩
    constructor
    · intro dotted
      exact one (String.toList_injective (dots_encodeChars dotted))
    · intro dotted
      exact two (String.toList_injective (dots_encodeChars dotted))

theorem stays_of_mem_resolve {path : List (List Char)} (plain : ∀ segment ∈ path, Plain segment)
    {segment : List Char} (member : segment ∈ resolve [] path) : Stays segment := by
  rcases mem_resolve member with rfl | none | ⟨source, inside, stays, rfl⟩
  · exact ⟨by decide, by decide⟩
  · exact absurd none List.not_mem_nil
  · rwa [encodeSegment_of_plain (plain source inside)]

theorem requestPath_of_stays {url : Url} {path : List (List Char)} (some : path ≠ [])
    (rest : url.rest = led path) (plain : ∀ segment ∈ path, Plain segment)
    (stays : ∀ segment ∈ path, Stays segment) : (requestPath url).toList = led path := by
  have kept : ∀ segment ∈ path, encodeSegment segment = segment :=
    fun segment member => encodeSegment_of_plain (plain segment member)
  have resolved := resolve_append stays kept [] []
  rw [List.append_nil, List.append_nil] at resolved
  rw [toList_requestPath, segments_target some rest plain, resolved, resolve,
    List.reverse_reverse]

end Url

namespace PeerPath
open Url

/-- A path of unreserved characters and slashes without segments of one or two dots. -/
structure Clean (path : String) : Prop where
  characters : ∀ char ∈ path.toList, Percent.unreserved char ∨ char = '/'
  undotted : ∀ segment ∈ path.toList.splitOn '/', segment ≠ ['.'] ∧ segment ≠ ['.', '.']

theorem mem_splitOn_append {front back segment : List Char} :
    segment ∈ (front ++ '/' :: back).splitOn '/' ↔
      segment ∈ front.splitOn '/' ∨ segment ∈ back.splitOn '/' := by
  rw [List.splitOn_append_cons_of_beq _ _ (beq_self_eq_true '/'), List.mem_append]

theorem mem_splitOn_slash {back segment : List Char} :
    segment ∈ ('/' :: back).splitOn '/' ↔ segment = [] ∨ segment ∈ back.splitOn '/' := by
  rw [List.splitOn_cons_eq_if_modifyHead, if_pos (beq_self_eq_true '/'), List.mem_cons]

theorem mem_splitOn_dropWhile {text segment : List Char}
    (member : segment ∈ (text.dropWhile (· = '/')).splitOn '/') : segment ∈ text.splitOn '/' := by
  induction text with
  | nil => exact member
  | cons char text ih =>
    by_cases slash : char = '/'
    · subst slash
      rw [List.dropWhile_cons_of_pos (by simp)] at member
      exact mem_splitOn_slash.mpr (.inr (ih member))
    · rwa [List.dropWhile_cons_of_neg (by simpa using slash)] at member

theorem mem_splitOn_reverse_dropWhile {back segment : List Char}
    (member : segment ∈ (back.dropWhile (· = '/')).reverse.splitOn '/') :
    segment ∈ back.reverse.splitOn '/' := by
  induction back with
  | nil => exact member
  | cons char back ih =>
    by_cases slash : char = '/'
    · subst slash
      rw [List.dropWhile_cons_of_pos (by simp)] at member
      rw [List.reverse_cons]
      exact mem_splitOn_append.mpr (.inl (ih member))
    · rwa [List.dropWhile_cons_of_neg (by simpa using slash)] at member

theorem mem_splitOn_dropTrailingSlashes {text segment : List Char}
    (member : segment ∈ (dropTrailingSlashes text).splitOn '/') : segment ∈ text.splitOn '/' := by
  have whole := mem_splitOn_reverse_dropWhile member
  rwa [List.reverse_reverse] at whole

theorem Clean.normalized {base : String} (clean : Clean base) :
    Clean (normalizeBase base) := by
  have kept (segment : List Char) (member : segment ∈
      (dropTrailingSlashes (base.toList.dropWhile (· = '/'))).splitOn '/') :
      segment ∈ base.toList.splitOn '/' :=
    mem_splitOn_dropWhile (mem_splitOn_dropTrailingSlashes member)
  have inside (char : Char)
      (member : char ∈ dropTrailingSlashes (base.toList.dropWhile (· = '/'))) :
      char ∈ base.toList := by
    have within := (List.dropWhile_sublist _).subset (List.mem_reverse.mp member)
    exact (List.dropWhile_sublist _).subset (List.mem_reverse.mp within)
  unfold PeerPath.normalizeBase
  generalize dropTrailingSlashes (base.toList.dropWhile (· = '/')) = trimmed at kept inside ⊢
  cases trimmed with
  | nil =>
    have split : "/".toList.splitOn '/' = [[], []] := rfl
    constructor
    · simp
    · rw [split]
      simp
  | cons first rest =>
    constructor
    · intro char member
      rw [String.toList_ofList, List.mem_append, List.mem_cons, List.mem_singleton] at member
      rcases member with (slash | member) | slash
      · exact .inr slash
      · exact clean.characters char (inside char member)
      · exact .inr slash
    · intro segment member
      rw [String.toList_ofList] at member
      rcases mem_splitOn_append.mp member with front | empty
      · rcases mem_splitOn_slash.mp front with rfl | member
        · simp
        · exact clean.undotted segment (kept segment member)
      · simp [List.mem_singleton.mp empty]

theorem Clean.segments {base : String} (clean : Clean (normalizeBase base)) :
    ∃ front, (normalizeBase base).toList = led front ++ ['/'] ∧
      ∀ segment ∈ front, Plain segment ∧ Stays segment := by
  obtain ⟨front, based, closed⟩ := normalizeBase_eq_led base
  have split : (normalizeBase base).toList.splitOn '/' = [] :: (front ++ [[]]) := by
    have slash : led front ++ ['/'] = led (front ++ [[]]) := (led_append front [[]]).symm
    have some : front ++ [[]] ≠ [] := List.append_ne_nil_of_right_ne_nil _ (List.cons_ne_nil _ _)
    have apart : ∀ segment ∈ front ++ [[]], '/' ∉ segment := by
      intro segment member
      rcases List.mem_append.mp member with inside | last
      · exact closed segment inside
      · simp [List.mem_singleton.mp last]
    rw [based, slash, led_eq_intercalate some, List.splitOn_cons_eq_if_modifyHead,
      if_pos (beq_self_eq_true '/'),
      List.splitOn_intercalate '/' apart some]
  refine ⟨front, based, fun segment inside => ?_⟩
  have unreserved : ∀ char ∈ segment, Percent.unreserved char = true := by
    intro char member
    have placed : char ∈ (normalizeBase base).toList := by
      rw [based]
      refine List.mem_append_left _ (List.mem_flatMap.mpr ⟨segment, inside, ?_⟩)
      exact List.mem_cons_of_mem _ member
    refine (clean.characters char placed).resolve_right ?_
    rintro rfl
    exact closed segment inside member
  have unmarked : '%' ∉ segment := fun member => absurd (unreserved '%' member) (by decide)
  have undotted := clean.undotted segment (by simp [split, inside])
  refine ⟨fun char member => plain_of_written (by simp [Percent.written, unreserved char member]),
    ?_, ?_⟩
  · intro dotted
    exact undotted.1 (dots_of_unmarked unmarked dotted)
  · intro dotted
    exact undotted.2 (dots_of_unmarked unmarked dotted)

theorem getLast?_normalizeBase (base : String) :
    (normalizeBase base).toList.getLast? = some '/' := by
  obtain ⟨front, based, _⟩ := normalizeBase_eq_led base
  simp [based]

theorem encodeChars_ne_nil {name : String} (some : name ≠ "") :
    Percent.encodeChars name.toList ≠ [] := by
  intro none
  have decoded := decodeSegment_encodeChars name
  rw [none] at decoded
  exact some (Except.ok.inj (decoded.symm.trans decodeSegment_nil))

theorem parse_fetchUrl_self (base key : String) {group : String} (named : group ≠ "") :
    parse base (fetchUrl base group key) = .ok (group, key) := by
  have parted : Parted (Percent.encodeChars group.toList ++ '/' :: Percent.encodeChars key.toList)
      (Percent.encodeChars group.toList) (Percent.encodeChars key.toList) :=
    ⟨rfl, (plain_encodeChars group.toList).slash_not_mem⟩
  rw [parse_of_parted (toList_fetchUrl base group key) parted (encodeChars_ne_nil named),
    decodeSegment_encodeChars, decodeSegment_encodeChars]
  rfl

theorem Clean.unbroken {path : String} (clean : Clean path) :
    path.toList.filter (!isBreak ·) = path.toList := by
  refine List.filter_eq_self.mpr fun char member => ?_
  rcases clean.characters char member with plain | rfl
  · have kept : Url.plain char = true := plain_of_written (by simp [Percent.written, plain])
    rw [(unmarked_of_plain kept).2.2.1]
    rfl
  · rfl

theorem Clean.toList_fetchUrl {base : String} (clean : Clean (normalizeBase base))
    (group key : String) : (fetchUrl (normalizeBase base) group key).toList =
      asked base group key := by
  rw [PeerPath.toList_fetchUrl, asked, clean.unbroken]

/-- Below a clean base path a request carries the path that it was written with, unless its
group or its key is one or two dots. -/
theorem requestPath_fetchUrl {base group key : String} (clean : Clean (normalizeBase base))
    (named : Undotted group) (sought : Undotted key) {url : Url}
    (rest : url.rest = (fetchUrl (normalizeBase base) group key).toList) :
    requestPath url = fetchUrl (normalizeBase base) group key := by
  obtain ⟨front, based, kept⟩ := clean.segments
  have path : (fetchUrl (normalizeBase base) group key).toList =
      led (front ++ [Percent.encodeChars group.toList, Percent.encodeChars key.toList]) := by
    rw [PeerPath.toList_fetchUrl, based, led_append]
    simp [led]
  have all : ∀ segment ∈ front ++ [Percent.encodeChars group.toList,
      Percent.encodeChars key.toList], Plain segment ∧ Stays segment := by
    intro segment member
    rcases List.mem_append.mp member with inFront | behind
    · exact kept segment inFront
    · simp only [List.mem_cons, List.not_mem_nil, or_false] at behind
      rcases behind with rfl | rfl
      · exact ⟨plain_encodeChars _, stays_encodeChars_iff.mpr named⟩
      · exact ⟨plain_encodeChars _, stays_encodeChars_iff.mpr sought⟩
  apply String.toList_injective
  rw [path] at rest ⊢
  apply requestPath_of_stays (List.append_ne_nil_of_right_ne_nil _ (List.cons_ne_nil _ _)) rest
  · exact fun segment member => (all segment member).1
  · exact fun segment member => (all segment member).2

theorem undotted_of_parse {base group key name found : String} {url : Url}
    (requested : url.rest = asked base group key)
    (parsed : parse (normalizeBase base) (requestPath url) = .ok (name, found)) :
    Undotted group ∧ (Undotted key ∨ found = "") := by
  obtain ⟨front, last, resolved, ends, _, decodedLast, plain⟩ := resolve_of_parse requested parsed
  have stays : ∀ segment ∈ front ++ [Percent.encodeChars group.toList, last], Stays segment := by
    intro segment member
    rw [← resolved] at member
    exact stays_of_mem_resolve plain (List.mem_reverse.mp member)
  refine ⟨stays_encodeChars_iff.mp (stays _ (by simp)), ?_⟩
  rcases ends with rfl | rfl
  · exact .inl (stays_encodeChars_iff.mp (stays _ (by simp)))
  · rw [decodeSegment_nil] at decodedLast
    exact .inr (Except.ok.inj decodedLast.symm)

end PeerPath

theorem Endpoint.ofAddress_eq_ok {address : String} {endpoint : Endpoint} :
    ofAddress address = .ok endpoint ↔
      ∃ url, Url.parse address = .ok url ∧ ofUrl? url = some endpoint := by
  unfold ofAddress ofUrl?
  cases Url.parse address with
  | error error => simp [Except.mapError, bind, Except.bind]
  | ok url =>
    simp only [Except.mapError, bind, Except.bind, Except.ok.injEq, exists_eq_left']
    cases url.host with
    | none => simp [throw, throwThe, MonadExceptOf.throw]
    | some host =>
      cases url.effectivePort? with
      | none => simp [throw, throwThe, MonadExceptOf.throw]
      | some port => simp [pure, Except.pure]

/-- What a peer makes of what a get of the asked node came to. -/
def Fetched.ofGot : Group.Got → Fetched
  | .ok value => .ok value
  | .error _ => .error (.status 500)

theorem Fetched.ofGot_eq_ok {got : Group.Got} {value : Payload} :
    ofGot got = .ok value ↔ got = .ok value := by
  cases got with
  | ok found => simp [ofGot]
  | error error => simp [ofGot]

theorem Fetched.ofGot_eq_error {got : Group.Got} {error : FetchError} :
    ofGot got = .error error ↔ error = .status 500 ∧ ∃ failure, got = .error failure := by
  cases got with
  | ok found => simp [ofGot]
  | error failure => simp [ofGot, eq_comm]

theorem Fetched.ofResponse_got (got : Group.Got) :
    ofResponse (.ofServed (got.mapError .lookup)) = ofGot got := by
  cases got <;> rfl

namespace Cluster
open PeerPath

variable {cluster after : Cluster} {node : Nat} {server : Node} {fetcher : Fetcher}
  {address base group key : String}

/-- A request for a URL reaches a node, with this path. -/
structure Reaches (cluster : Cluster) (url : String) (node : Nat) (path : String) : Prop where
  up : cluster.network.link = .up
  read : ∃ parsed endpoint, Url.parse url = .ok parsed ∧ parsed.scheme = "http" ∧
    parsed.rest = path.toList ∧ Endpoint.ofUrl? parsed = some endpoint ∧
    cluster.network.faults.lookup endpoint = none ∧
    cluster.nodes.findIdx? (fun node => node.endpoint? = some endpoint) = some node

/-- A node serves its groups below a URL: the link is up, the URL leads to the node without a
fault, and the path in it is the base path of the node, which is clean. -/
structure Serves (cluster : Cluster) (url : String) (node : Nat) (server : Node) : Prop where
  hosted : cluster.nodes[node]? = some server
  clean : Clean server.pool.basePath
  below : ∃ address, url = baseUrl address server.pool.basePath
  reaches : cluster.Reaches url node server.pool.basePath

theorem route_of_read {url : String} {parsed : Url} {endpoint : Endpoint}
    (up : cluster.network.link = .up) (read : Url.parse url = .ok parsed)
    (http : parsed.scheme = "http") (placed : Endpoint.ofUrl? parsed = some endpoint)
    (clear : cluster.network.faults.lookup endpoint = none)
    (standing : cluster.nodes.findIdx? (fun node => node.endpoint? = some endpoint) = some node) :
    cluster.route url = .toNode node parsed.requestPath := by
  rw [route, up, read]
  simp only [http, placed, routeTo, clear, standing]

theorem Reaches.route_append {url path tail : String} (reaches : cluster.Reaches url node path)
    (first : path.toList.head? = some '/')
    (last : ∀ char ∈ url.toList.getLast?, Url.isBlank char = false)
    (inked : ∀ char ∈ tail.toList, Url.isBlank char = false) :
    ∃ target : Url, target.rest = path.toList ++ tail.toList ∧
      cluster.route (url ++ tail) = .toNode node target.requestPath := by
  obtain ⟨parsed, endpoint, read, http, rest, placed, clear, standing⟩ := reaches.read
  have longer := Url.parse_append read http (rest ▸ first) last inked
  refine ⟨_, ?_, route_of_read reaches.up longer http placed clear standing⟩
  rw [rest]

theorem Serves.route_fetchUrl {url : String} (serves : cluster.Serves url node server)
    (group key : String) : ∃ target : Url,
      target.rest = (fetchUrl server.pool.basePath group key).toList ∧
      cluster.route (fetchUrl url group key) = .toNode node target.requestPath := by
  obtain ⟨address, rfl⟩ := serves.below
  have last : ∀ char ∈ (baseUrl address server.pool.basePath).toList.getLast?,
      Url.isBlank char = false := by
    intro char final
    have slash : server.pool.basePath.toList.getLast? = some '/' := getLast?_normalizeBase _
    obtain rfl : '/' = char := by simpa [baseUrl, List.getLast?_append, slash] using final
    rfl
  have inked : ∀ char ∈ (Percent.encode group ++ "/" ++ Percent.encode key).toList,
      Url.isBlank char = false := by
    intro char member
    exact (inked_of_asked group key char (by simpa [Percent.encode] using member)).1
  have whole (base : String) : fetchUrl base group key =
      base ++ (Percent.encode group ++ "/" ++ Percent.encode key) := by
    simp only [fetchUrl, String.append_assoc]
  have routed := serves.reaches.route_append (head?_normalizeBase _) last inked
  rwa [whole, whole, String.toList_append]

theorem serveVia_of_parse (ask : Ask) {path : String} (hosted : cluster.nodes[node]? = some server)
    (parsed : parse server.pool.basePath path = .ok (group, key))
    (known : (server.groups.get? group).isSome) : cluster.serveVia ask node path =
      (cluster.getVia ask ⟨node, group⟩ key).map fun result =>
        (result.1.mapError .lookup, result.2) := by
  obtain ⟨found, known⟩ := Option.isSome_iff_exists.mp known
  simp only [serveVia, hosted, parsed, known, Option.bind_eq_bind, Option.bind_some]
  cases cluster.getVia ask ⟨node, group⟩ key <;> rfl

/-- A request for a group and a key arrives with them, unless one of them is one or two dots. -/
theorem Serves.arrives {url : String} (serves : cluster.Serves url node server)
    (nonempty : group ≠ "") (named : Url.Undotted group) (sought : Url.Undotted key) :
    ∃ path, cluster.route (fetchUrl url group key) = .toNode node path ∧
      parse server.pool.basePath path = .ok (group, key) := by
  obtain ⟨target, rest, routed⟩ := serves.route_fetchUrl group key
  have path : target.requestPath = fetchUrl server.pool.basePath group key :=
    requestPath_fetchUrl serves.clean named sought rest
  refine ⟨_, routed, ?_⟩
  rw [path]
  exact parse_fetchUrl_self server.pool.basePath key nonempty

theorem Serves.fetchWithin_eq_map (serves : cluster.Serves fetcher.baseUrl node server)
    (known : (server.groups.get? group).isSome) (nonempty : group ≠ "")
    (named : Url.Undotted group) (sought : Url.Undotted key) (hops : Nat) :
    fetchWithin (hops + 1) cluster fetcher group key =
      (cluster.getVia (fetchWithin hops) ⟨node, group⟩ key).map fun result =>
        (.ofGot result.1, result.2) := by
  obtain ⟨path, routed, parsed⟩ := serves.arrives nonempty named sought
  have served := serveVia_of_parse (fetchWithin hops) serves.hosted parsed known
  simp only [fetchWithin, routed, Option.bind_eq_bind, served]
  cases cluster.getVia (fetchWithin hops) ⟨node, group⟩ key with
  | none => rfl
  | some result => simp [Fetched.ofResponse_got]

theorem Serves.undotted_of_fetched (serves : cluster.Serves fetcher.baseUrl node server)
    {hops : Nat} {value : Payload}
    (fetched : fetchWithin hops cluster fetcher group key = some (.ok value, after)) :
    Url.Undotted group ∧ Url.Undotted key := by
  cases hops with
  | zero => nomatch fetched
  | succ hops =>
    obtain ⟨target, rest, routed⟩ := serves.route_fetchUrl group key
    rcases fetchWithin_eq_some fetched with ⟨ended, _⟩ | ⟨_, _, _, again, answered, told⟩
    · nomatch routed.symm.trans ended
    obtain ⟨rfl, rfl⟩ := Route.toNode.inj (routed.symm.trans again)
    rcases serveVia_eq_some answered with
      ⟨_, _, rfl⟩ | ⟨_, name, found, got, hosted, parsed, done, rfl⟩
    · nomatch Fetched.eq_ok_of_ofServed told.symm
    obtain rfl := Option.some.inj (serves.hosted.symm.trans hosted)
    have requested := rest.trans (serves.clean.toList_fetchUrl group key)
    obtain ⟨named, sought | rfl⟩ := undotted_of_parse requested parsed
    · exact ⟨named, sought⟩
    · obtain rfl := Fetched.eq_ok_of_got told.symm
      nomatch getVia_empty done

theorem AnswersAt.serves (answers : cluster.AnswersAt address node)
    (peer : Url.IsPeerAddress address) (up : cluster.network.link = .up)
    (hosted : cluster.nodes[node]? = some server) (clean : Clean server.pool.basePath) :
    cluster.Serves (baseUrl address server.pool.basePath) node server := by
  obtain ⟨endpoint, found, clear, standing⟩ := answers
  have last : ∀ char ∈ server.pool.basePath.toList.getLast?, Url.isBlank char = false := by
    intro char final
    obtain rfl := Option.some.inj ((getLast?_normalizeBase _).symm.trans final)
    rfl
  obtain ⟨parsed, slashes, ofAddress, below⟩ := parse_baseUrl peer
  have below := below server.pool.basePath (head?_normalizeBase _) last
  rw [clean.unbroken] at below
  obtain ⟨url, read, placed⟩ := Endpoint.ofAddress_eq_ok.mp found
  rw [ofAddress] at read
  cases parsed with
  | error error => nomatch read
  | ok parsed =>
    obtain rfl := Except.ok.inj read
    exact ⟨hosted, clean, ⟨address, rfl⟩, up, _, endpoint, below, rfl, rfl, placed, clear, standing⟩

/-- Where a node serves a group of some name, a value is fetched if and only if a get of the node
gives it and neither the group nor the key is one or two dots. For all other groups and keys a
request fails if and only if the get fails, and then with status 500. -/
theorem fetched_iff_got (serves : cluster.Serves fetcher.baseUrl node server)
    (known : (server.groups.get? group).isSome) (nonempty : group ≠ "") (hops : Nat) :
    (∀ value after, fetchWithin (hops + 1) cluster fetcher group key = some (.ok value, after) ↔
      (Url.Undotted group ∧ Url.Undotted key) ∧
        cluster.getVia (fetchWithin hops) ⟨node, group⟩ key = some (.ok value, after)) ∧
    (Url.Undotted group → Url.Undotted key → ∀ error after,
      fetchWithin (hops + 1) cluster fetcher group key = some (.error error, after) ↔
        error = .status 500 ∧ ∃ failure,
          cluster.getVia (fetchWithin hops) ⟨node, group⟩ key = some (.error failure, after)) := by
  constructor
  · intro value after
    constructor
    · intro fetched
      have ⟨named, sought⟩ := serves.undotted_of_fetched fetched
      rw [serves.fetchWithin_eq_map known nonempty named sought] at fetched
      obtain ⟨⟨got, later⟩, done, same⟩ := Option.map_eq_some_iff.mp fetched
      obtain ⟨given, rfl⟩ := Prod.mk.inj same
      refine ⟨⟨named, sought⟩, ?_⟩
      rwa [← Fetched.ofGot_eq_ok.mp given]
    · rintro ⟨⟨named, sought⟩, done⟩
      rw [serves.fetchWithin_eq_map known nonempty named sought, done]
      rfl
  · intro named sought error after
    rw [serves.fetchWithin_eq_map known nonempty named sought]
    constructor
    · intro fetched
      obtain ⟨⟨got, later⟩, done, same⟩ := Option.map_eq_some_iff.mp fetched
      obtain ⟨given, rfl⟩ := Prod.mk.inj same
      obtain ⟨rfl, failure, rfl⟩ := Fetched.ofGot_eq_error.mp given
      exact ⟨rfl, failure, done⟩
    · rintro ⟨rfl, failure, done⟩
      rw [done]
      rfl

theorem clean_defaultBase : Clean defaultBase := by
  have split : defaultBase.toList.splitOn '/' =
      [[], ['_', 'g', 'e', 'e', 'c', 'a', 'c', 'h', 'e'], []] := rfl
  constructor
  · simp [defaultBase, Percent.unreserved]
  · rw [split]
    simp

theorem echo_serves : ∃ server, echo.Serves "http://a:80/_geecache/" 0 server ∧
    (server.groups.get? "g").isSome := by
  have answers : echo.AnswersAt "http://a:80" 0 := ⟨⟨.domain "a", 80⟩, by cbv, rfl, by cbv⟩
  have peer : Url.IsPeerAddress "http://a:80" :=
    ⟨['a'], ['8', '0'], 0, ⟨by simp [Url.endsHost], by simp, by simp⟩, rfl⟩
  have serves := answers.serves peer rfl rfl clean_defaultBase.normalized
  exact ⟨_, serves, rfl⟩

/-- A key with marks of URLs and letters beyond ASCII is fetched as it is got. -/
theorem fetched_iff_got_marks : ∃ after,
    echo.getVia (fetchWithin 0) ⟨0, "g"⟩ "100%?/ключ" = some (.ok (.ofText "100%?/ключ"), after) ∧
    fetchWithin 1 echo ⟨"http://a:80/_geecache/", 3000⟩ "g" "100%?/ключ" =
      some (.ok (.ofText "100%?/ключ"), after) := by
  obtain ⟨server, serves, known⟩ := echo_serves
  have got : (echo.getVia (fetchWithin 0) ⟨0, "g"⟩ "100%?/ключ").map (·.1) =
    some (.ok (.ofText "100%?/ключ")) := by cbv
  obtain ⟨⟨_, after⟩, done, rfl⟩ := Option.map_eq_some_iff.mp got
  refine ⟨after, done, ((fetched_iff_got serves known (by decide) 0).1 _ _).mpr ⟨?_, done⟩⟩
  decide

/-- A key of one dot is got, but not fetched. -/
theorem dot_not_fetched : (∃ server, echo.Serves "http://a:80/_geecache/" 0 server ∧
      (server.groups.get? "g").isSome) ∧
    (echo.get ⟨0, "g"⟩ ".").map (·.1) = some (.ok (.ofText ".")) ∧
    (echo.fetch ⟨"http://a:80/_geecache/", 3000⟩ "g" ".").map (·.1) =
      some (.error (.status 500)) := by
  refine ⟨echo_serves, ?_, ?_⟩
  · cbv
  · cbv

end Cluster

end ReadThrough
