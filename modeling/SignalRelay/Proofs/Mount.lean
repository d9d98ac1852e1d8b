import Mathlib.Data.List.DropRight
import SignalRelay.Client.Options
import SignalRelay.Http.Route
import SignalRelay.Proofs.Url

namespace SignalRelay

/-!
# Where the relay is mounted and where clients look for it

The relay brings its mount path into a normal form and puts every route below it.  A client
strips the same setting on its own and writes it into a URL, which is then read.  For a plain
path and a plain host both come to the same place, under every port and either scheme.
-/

/-! ## Stripping -/

namespace Blank

variable {test : Char → Bool}

theorem stripWhile_eq_rdropWhile
    (test : Char → Bool)
    (chars : List Char) :
    stripWhile test chars = (chars.dropWhile test).rdropWhile test :=
  rfl

/-- Stripping adds nothing. -/
theorem stripWhile_sublist
    (test : Char → Bool)
    (chars : List Char) :
    (stripWhile test chars).Sublist chars :=
  (List.rdropWhile_prefix test _).sublist.trans (List.dropWhile_sublist test)

/-- What stands around a text is stripped from it. -/
theorem stripWhile_around
    {before body after : List Char}
    (front : ∀ c ∈ before, test c = true)
    (back : ∀ c ∈ after, test c = true)
    (inside : ∀ c ∈ body, test c = false) :
    stripWhile test (before ++ body ++ after) = body := by
  have dropped {outside rest : List Char}
      (all : ∀ c ∈ outside, test c = true)
      (stops : ∀ c, rest.head? = some c → test c = false) :
      (outside ++ rest).dropWhile test = rest := by
    rw [List.dropWhile_append_of_pos all]
    cases rest with
    | nil => rfl
    | cons c rest => exact List.dropWhile_cons_of_neg (Bool.eq_false_iff.mp (stops c rfl))
  cases body with
  | nil =>
      have all : ∀ c ∈ before ++ [] ++ after, test c = true := by
        intro c member
        rw [List.append_nil] at member
        exact (List.mem_append.mp member).elim (front c) (back c)
      rw [stripWhile, List.dropWhile_eq_nil_iff.mpr all]
      rfl
  | cons first rest =>
      have opened : (before ++ first :: rest ++ after).dropWhile test =
          first :: rest ++ after := by
        rw [List.append_assoc]
        refine dropped front fun c begins => ?_
        cases begins
        exact inside first List.mem_cons_self
      have closed : (after.reverse ++ (first :: rest).reverse).dropWhile test =
          (first :: rest).reverse := by
        refine dropped (fun c member => back c (List.mem_reverse.mp member)) fun c begins => ?_
        exact inside c (List.mem_reverse.mp (List.mem_of_mem_head? begins))
      rw [stripWhile, opened, List.reverse_append, closed, List.reverse_reverse]

/-- What is stripped from a text stood around it. -/
theorem exists_around
    (test : Char → Bool)
    (chars : List Char) :
    ∃ before after,
      chars = before ++ (stripWhile test chars ++ after) ∧
        (∀ c ∈ before, test c = true) ∧
        ∀ c ∈ after, test c = true :=
  ⟨chars.takeWhile test, (chars.dropWhile test).rtakeWhile test,
    by rw [stripWhile_eq_rdropWhile, List.rdropWhile_append_rtakeWhile,
      List.takeWhile_append_dropWhile],
    fun _ member => List.mem_takeWhile_imp member,
    fun _ member => List.mem_rtakeWhile_imp member⟩

theorem test_of_getLast?
    {chars : List Char}
    {last : Char}
    (ends : (stripWhile test chars).getLast? = some last) :
    test last = false := by
  have nonempty : stripWhile test chars ≠ [] := by
    intro empty
    rw [empty] at ends
    cases ends
  rw [List.getLast?_eq_some_getLast nonempty] at ends
  cases ends
  exact Bool.eq_false_iff.mpr (List.rdropWhile_last_not _ _ nonempty)

theorem isBlank_of_isPlain
    {c : Char}
    (plain : isPlain c = true) :
    isBlank c = false := by
  have kept := (of_isPlain plain).1
  simp only [UrlPath.isKept, Bool.and_eq_true, decide_eq_true_eq] at kept
  obtain ⟨⟨printable, within⟩, -⟩ := kept
  simp only [isBlank, Bool.or_eq_false_iff, Bool.and_eq_false_iff, decide_eq_false_iff_not,
    beq_eq_false_iff_ne]
  omega

end Blank

namespace MountPath

/-- A mount path: plain characters with white space around them, and no segment of one dot or
of two. -/
def Plain (path : String) : Prop :=
  ∃ before body after : List Char,
    path.toList = before ++ body ++ after ∧
      (∀ c ∈ before ++ after, Blank.isBlank c = true) ∧
      (∀ c ∈ body, isPlain c = true) ∧
      ['.'] ∉ body.splitOn '/' ∧
      ['.', '.'] ∉ body.splitOn '/'

/-- Slashes around a path add no segments but empty ones. -/
theorem mem_splitOn_around
    {before body after : List Char}
    (front : ∀ c ∈ before, isSlash c = true)
    (back : ∀ c ∈ after, isSlash c = true)
    {segment : List Char}
    (member : segment ∈ body.splitOn '/') :
    segment ∈ (before ++ (body ++ after)).splitOn '/' := by
  have closed : segment ∈ (body ++ after).splitOn '/' := by
    cases after with
    | nil => rwa [List.append_nil]
    | cons slash rest =>
        cases eq_of_beq (back slash List.mem_cons_self)
        rw [List.splitOn_append_cons_self]
        exact List.mem_append_left _ member
  clear member
  induction before with
  | nil => exact closed
  | cons slash rest inductionHypothesis =>
      cases eq_of_beq (front slash List.mem_cons_self)
      rw [List.cons_append, List.splitOn_cons_eq_if_modifyHead, if_pos BEq.rfl]
      exact List.mem_cons_of_mem _
        (inductionHypothesis fun c member => front c (List.mem_cons_of_mem _ member))

/-- What is left of a plain mount path is plain. -/
theorem Plain.bare
    {path : String}
    (plain : Plain path) :
    (∀ c ∈ bare path, isPlain c = true) ∧
      ['.'] ∉ (bare path).splitOn '/' ∧
      ['.', '.'] ∉ (bare path).splitOn '/' := by
  obtain ⟨before, body, after, split, blank, plainBody, noHere, noBack⟩ := plain
  have trimmed : Blank.stripWhile Blank.isBlank path.toList = body := by
    rw [split]
    exact Blank.stripWhile_around (fun c member => blank c (List.mem_append_left _ member))
      (fun c member => blank c (List.mem_append_right _ member))
      fun c member => Blank.isBlank_of_isPlain (plainBody c member)
  rw [MountPath.bare, trimmed]
  obtain ⟨slashes, moreSlashes, around, front, back⟩ := Blank.exists_around isSlash body
  refine ⟨fun c member => plainBody c ?_, fun here => noHere ?_, fun goesBack => noBack ?_⟩
  · rw [around]
    exact List.mem_append_right _ (List.mem_append_left _ member)
  · rw [around]
    exact mem_splitOn_around front back here
  · rw [around]
    exact mem_splitOn_around front back goesBack

end MountPath

/-! ## Routes -/

namespace RoutePattern

/-- A route of literal segments fits the path of these segments and no other. -/
theorem captures?_literals
    (spellings segments : List (List Char)) :
    captures? (spellings.map .literal) segments =
      if segments = spellings then some [] else none := by
  induction spellings generalizing segments with
  | nil =>
      cases segments with
      | nil => rfl
      | cons => rfl
  | cons spelling rest inductionHypothesis =>
      cases segments with
      | nil => rfl
      | cons segment segments =>
          simp only [List.map_cons, captures?, SegmentPattern.capture?, inductionHypothesis,
            List.cons.injEq]
          by_cases same : segment = spelling
          · by_cases sameRest : segments = rest
            · simp [same, sameRest]
            · simp [same, sameRest]
          · simp [same]

/-- A slash ends a segment. -/
theorem segments_append_slash
    (before after : List Char) :
    segments (before ++ '/' :: after) = segments before ++ segments after := by
  simp only [segments, Pieces.cut_eq_splitOnP]
  exact List.splitOnP_append_cons _ _ (by decide)

/-- A route without a colon is made of literal segments. -/
theorem ofText_of_no_colon
    {text : String}
    (noColon : ':' ∉ text.toList) :
    ofText text = (segments text.toList).map .literal := by
  refine List.map_congr_left fun segment member => ?_
  have absent : ∀ c ∈ segment, (c == ':') = false := by
    intro c inside
    rw [segments, Pieces.cut_eq_splitOnP] at member
    refine beq_false_of_ne ?_
    rintro rfl
    exact noColon (Pieces.of_mem_splitOnP member ':' inside).1
  rw [SegmentPattern.ofChars, Pieces.cutOnce_of_absent absent]

end RoutePattern

namespace ClientOptions

variable {options : ClientOptions}

/-- What a client writes for the mount path is what the relay puts in front of a route. -/
theorem below_normalize
    (options : ClientOptions)
    (path : String) :
    MountPath.below (MountPath.normalize options.path) path = options.mount ++ path := by
  have ends {last : Char} (isLast : (MountPath.bare options.path).getLast? = some last) :
      MountPath.isSlash last = false :=
    Blank.test_of_getLast? isLast
  unfold MountPath.below MountPath.normalize mount
  rw [String.toList_ofList]
  generalize MountPath.bare options.path = bare at ends ⊢
  cases bare with
  | nil => rfl
  | cons first rest =>
      have unclosed : ('/' :: first :: rest).getLast? ≠ some '/' := by
        rw [List.getLast?_cons_cons]
        exact fun isLast => absurd (ends isLast) (by decide)
      simp only [beq_iff_eq, unclosed, ↓reduceIte]

theorem mount_eq
    (options : ClientOptions) :
    options.mount =
      if MountPath.normalize options.path = "/" then "" else MountPath.normalize options.path := by
  unfold MountPath.normalize mount
  cases MountPath.bare options.path with
  | nil => rfl
  | cons first rest =>
      have notRoot : String.ofList ('/' :: first :: rest) ≠ "/" := by
        intro same
        have chars := congrArg String.toList same
        rw [String.toList_ofList] at chars
        cases chars
      rw [if_neg notRoot]

/-- What a client writes behind the port for a plain mount path is a plain path. -/
theorem path_of_plain
    (plain : MountPath.Plain options.path) :
    ∃ path : List Char,
      (options.mount ++ MountPath.socketPath).toList = '/' :: path ∧
        (∀ c ∈ path, isPlain c = true) ∧
        ['.'] ∉ path.splitOn '/' ∧
        ['.', '.'] ∉ path.splitOn '/' := by
  let name : List Char := ['p', 'e', 'e', 'r', 'j', 's']
  obtain ⟨plainBare, noHere, noBack⟩ := plain.bare
  unfold mount
  generalize MountPath.bare options.path = bare at plainBare noHere noBack ⊢
  cases bare with
  | nil => exact ⟨name, rfl, List.all_eq_true.mp (by decide), by decide, by decide⟩
  | cons first rest =>
      have segments : (first :: rest ++ '/' :: name).splitOn '/' =
          (first :: rest).splitOn '/' ++ [name] :=
        List.splitOn_append_cons_self ..
      refine ⟨first :: rest ++ '/' :: name, ?_, ?_, ?_, ?_⟩
      · rw [String.toList_append, String.toList_ofList]
        rfl
      · have plainName : ∀ c ∈ '/' :: name, isPlain c = true :=
          List.all_eq_true.mp (by decide)
        intro c member
        exact (List.mem_append.mp member).elim (plainBare c) (plainName c)
      · rw [segments, List.mem_append, not_or]
        exact ⟨noHere, by decide⟩
      · rw [segments, List.mem_append, not_or]
        exact ⟨noBack, by decide⟩

/-- Routes without parameters differ from each other in what is behind the mount path. -/
theorem captures?_below
    (noColon : ':' ∉ options.mount.toList)
    (resource : Resource)
    (name : List Char)
    (named : resource.path.toList = '/' :: name)
    (literal : ':' ∉ '/' :: name)
    (asked : List Char) :
    (resource.route (MountPath.normalize options.path)).captures?
        (RoutePattern.segments (options.mount.toList ++ '/' :: asked)) =
      if RoutePattern.segments asked = RoutePattern.segments name then some [] else none := by
  have noColonBelow : ':' ∉ (options.mount ++ resource.path).toList := by
    rw [String.toList_append, List.mem_append, not_or, named]
    exact ⟨noColon, literal⟩
  rw [Resource.route, below_normalize, RoutePattern.ofText_of_no_colon noColonBelow,
    RoutePattern.captures?_literals, String.toList_append, named]
  simp only [RoutePattern.segments_append_slash, List.append_cancel_left_eq]

/-- The relay has its socket where its mount path and the name of the socket lead. -/
theorem find?_socket
    (noColon : ':' ∉ options.mount.toList) :
    Resource.find? (MountPath.normalize options.path)
        (options.mount ++ MountPath.socketPath).toList =
      some (.socket, []) := by
  let asked : List Char := ['p', 'e', 'e', 'r', 'j', 's']
  have health := captures?_below noColon .health ['h', 'e', 'a', 'l', 't', 'h'] rfl (by decide)
    asked
  have metrics := captures?_below noColon .metrics ['m', 'e', 't', 'r', 'i', 'c', 's'] rfl
    (by decide) asked
  have socket := captures?_below noColon .socket asked rfl (by decide) asked
  rw [if_neg (by decide)] at health metrics
  rw [if_pos rfl] at socket
  have place : (options.mount ++ MountPath.socketPath).toList =
      options.mount.toList ++ '/' :: asked :=
    String.toList_append ..
  simp only [place, Resource.find?, Resource.all, List.findSome?_cons, health, metrics, socket,
    Option.map_none, Option.map_some]

/-- Behind the host a client writes the port and what it has for the mount path. -/
theorem toList_endpoint
    (options : ClientOptions) :
    options.endpoint.toList =
      options.host.toList ++ ':' :: Nat.toDigits 10 options.port.toNat ++
        (options.mount ++ MountPath.socketPath).toList := by
  rw [ClientOptions.endpoint, String.append_assoc, String.toList_append, String.toList_append,
    String.toList_append, Nat.toString_eq_repr, Nat.toList_repr]
  simp

/--
A client finds the relay where it is mounted.  For every plain mount path, a host name of small
letters, every port and either scheme, the URL of the socket can be made.  It has that host and
is connected to at that port.  Its path is the one at which a relay with the same setting has its
socket: the name of the socket below the root, or below the normal form of the mount path.
-/
theorem baseUrl_at_mount
    (names : NameMapping)
    (options : ClientOptions)
    (plainHost : PlainHost options.host.toList)
    (plainPath : MountPath.Plain options.path) :
    ∃ url,
      options.baseUrl names = .ok url ∧
        url.secure = options.secure ∧
        url.host = .domain options.host ∧
        url.knownPort = options.port ∧
        String.ofList url.path =
          (if MountPath.normalize options.path = "/" then
            "/peerjs"
          else
            MountPath.normalize options.path ++ "/peerjs") ∧
        Resource.find? (MountPath.normalize options.path) url.path = some (.socket, []) := by
  obtain ⟨path, below, plain, noHere, noBack⟩ := path_of_plain plainPath
  have endpoint := congrArg String.ofList options.toList_endpoint
  rw [String.ofList_toList, below] at endpoint
  have urlRead := SocketUrl.read_of_plain names options.secure plainHost options.port plain noHere
    noBack
  rw [String.ofList_toList] at urlRead
  refine ⟨_, by rw [baseUrl, endpoint, urlRead]; rfl, rfl, rfl, ?_, ?_, ?_⟩
  · change Option.getD (if options.port = SocketUrl.usualPort options.secure then none
      else some options.port) (SocketUrl.usualPort options.secure) = options.port
    split
    · next usual => exact usual.symm
    · rfl
  · change String.ofList ('/' :: path) = _
    rw [← below, String.ofList_toList, mount_eq]
    split
    · rfl
    · rfl
  · change Resource.find? _ ('/' :: path) = _
    rw [← below]
    refine find?_socket fun colon => ?_
    have inPath : ':' ∈ '/' :: path := by
      rw [← below, String.toList_append]
      exact List.mem_append_left _ colon
    rcases List.mem_cons.mp inPath with slash | inside
    · cases slash
    · exact (of_isPlain (plain ':' inside)).2 (by decide)

/-- An empty segment inside a mount path stays, slashes around it do not. -/
theorem baseUrl_at_mount_with_empty_segment :
    ∃ (options : ClientOptions) (url : SocketUrl),
      options.path = " //app//v1.2/ " ∧
        PlainHost options.host.toList ∧
        MountPath.Plain options.path ∧
        options.baseUrl (fun _ => none) = .ok url ∧
        url.knownPort = 443 ∧
        String.ofList url.path = "/app//v1.2/peerjs" ∧
        Resource.find? "/app//v1.2" url.path = some (.socket, []) := by
  let options : ClientOptions :=
    { host := "relay.example", port := 443, path := " //app//v1.2/ ", secure := true }
  have plainHost : PlainHost options.host.toList := by decide
  have plainPath : MountPath.Plain options.path :=
    ⟨[' '], ['/', '/', 'a', 'p', 'p', '/', '/', 'v', '1', '.', '2', '/'], [' '], by decide,
      List.all_eq_true.mp (by decide), List.all_eq_true.mp (by decide), by decide, by decide⟩
  obtain ⟨url, made, -, -, known, place, found⟩ :=
    baseUrl_at_mount (fun _ => none) options plainHost plainPath
  have normal : MountPath.normalize options.path = "/app//v1.2" := by decide
  rw [normal] at place found
  exact ⟨options, url, rfl, plainHost, plainPath, made, known, place, found⟩

end ClientOptions

end SignalRelay
