import Tributary.Cursor.Opening
import Tributary.Proofs.Service.Requests

/-!
# What a dataplane endpoint is asked for

Rows at a dataplane endpoint are fetched from the address of the redirect, of which only the path is
replaced. Where that address ends in its path, the path of a request is that of the statement below
the interface, and its query has the pairs of the question alone. A query or a fragment of the
address stays, and swallows the path of the question: the request then asks for the interface
itself.
-/

namespace Tributary

open Text Url

namespace Redirect

variable {redirect : Redirect} {u : Url}

/-- An address of the web with the path of the interface. -/
theorem isLegible_withPath {segments : List (List Char)} (h : u.IsLegible segments) :
    u.withPath ['v', '2'] = { u with path := .segments [['v', '2']] } ∧
      (u.withPath ['v', '2']).IsLegible [['v', '2']] := by
  have hpath : u.withPath ['v', '2'] = { u with path := .segments [['v', '2']] } := by
    unfold withPath
    rw [h.path]
  refine ⟨hpath, ?_⟩
  rw [hpath]
  exact { h with
    path := rfl
    nonempty := List.cons_ne_nil _ _
    inner := List.forall_mem_singleton.mpr (forall_mem_of_all (by decide)) }

theorem areSegments_interface : Path.AreSegments [['v', '2']] :=
  List.forall_mem_singleton.mpr (Path.isSegment_of_forall (forall_mem_of_all (by decide)))

theorem areSegments_status (statementId : Uuid) (part : Int) (sessionId : Option String) :
    Path.AreSegments (Question.status statementId part sessionId).segments := by
  apply Question.areSegments_segments
  rintro ⟨type, organization, name, h, -⟩
  cases h

/-- A redirect to the web with a token can be followed. -/
theorem runner_of_ofString (huri : Url.ofString redirect.uri = .ok u) (hkind : u.kind = .special)
    (htoken : redirect.token ≠ "") (settings : CursorSettings) :
    redirect.runner settings = .ok
      { service := .rest (String.ofList (Server.trimSlashes (u.withPath ['v', '2']).text))
          (.fixed ⟨redirect.token, htoken⟩) settings.maintenance
        keepsContext := false
        sessionId := settings.sessionId
        pollInterval := settings.pollInterval
        endpoint := .dataplane } := by
  obtain ⟨segments, hlegible, -⟩ := isLegible_of_read huri hkind
  have haddress : address redirect.uri = .ok (u.withPath ['v', '2']).toString := by
    unfold address
    rw [huri]
  have hbearer : bearer redirect.token = .ok ⟨redirect.token, htoken⟩ := by
    unfold bearer FixedToken.of
    rw [dif_neg htoken]
    rfl
  have hread : Url.ofString (u.withPath ['v', '2']).toString = .ok (u.withPath ['v', '2']) := by
    unfold Url.ofString Url.toString
    rw [String.toList_ofList]
    exact (isLegible_withPath hlegible).2.read_text_of_areSegments areSegments_interface
  unfold runner
  rw [haddress, hbearer]
  simp only [bind, Except.bind, Server.base_of_ofString hread, Except.mapError]

theorem isKept_of_mem_status (statementId : Uuid) (part : Int) (sessionId : Option String) :
    ∀ c ∈ (Question.status statementId part sessionId).path.toList,
      isKept (keepsInQuery .special) c = true ∧ isKept keepsInFragment c = true := by
  show ∀ c ∈ ("/statements/" ++ statementId.toString).toList, _
  have htext : ("/statements/" ++ statementId.toString).toList =
      "/statements/".toList ++ statementId.text := by
    rw [String.toList_append]
    exact congrArg ("/statements/".toList ++ ·) String.toList_ofList
  rw [htext, List.forall_mem_append]
  exact ⟨forall_mem_of_all (by decide), Uuid.forall_mem_text (by decide) (by decide) statementId⟩

/-- Where a request for a part of a statement goes. -/
theorem ofString_status {segments : List (List Char)} (h : u.IsLegible segments)
    (statementId : Uuid) (part : Int) (sessionId : Option String) :
    ∃ sent, Url.ofString (String.ofList (Server.trimSlashes (u.withPath ['v', '2']).text) ++
        (Question.status statementId part sessionId).path) = .ok sent ∧
      sent.scheme = u.scheme ∧ sent.host = u.host ∧ sent.port = u.port ∧
      (u.query = none ∧ u.fragment = none → sent.query = none ∧
        sent.path = .segments ["v2".toList, "statements".toList, statementId.text]) ∧
      (¬ (u.query = none ∧ u.fragment = none) → sent.path = .segments ["v2".toList]) := by
  obtain ⟨hpath, hinterface⟩ := isLegible_withPath h
  by_cases htail : u.query = none ∧ u.fragment = none
  · have hadded : Path.pushAll .special [] (directory [['v', '2']] ++
        (Question.status statementId part sessionId).segments) =
          ["v2".toList, "statements".toList, statementId.text] :=
      Path.pushAll_of_areSegments [] (List.forall_mem_append.mpr
        ⟨areSegments_interface, areSegments_status statementId part sessionId⟩)
    refine ⟨_, hinterface.ofString_path ?_ ?_ _, ?_, ?_, ?_, fun _ => ⟨?_, ?_⟩, absurd htail⟩
    · rw [hpath]
      exact htail.1
    · rw [hpath]
      exact htail.2
    · rw [hpath]
    · rw [hpath]
    · rw [hpath]
    · rw [hpath]
      exact htail.1
    · rw [hadded]
  · obtain ⟨query, fragment, hread⟩ := hinterface.read_append_tail areSegments_interface
      (by rw [hpath]; exact htail) (isKept_of_mem_status statementId part sessionId)
    refine ⟨{ u.withPath ['v', '2'] with query, fragment }, ?_, ?_, ?_, ?_,
      fun h => absurd h htail, fun _ => ?_⟩
    · unfold Url.ofString
      rw [String.toList_append, String.toList_ofList]
      exact hread
    all_goals rw [hpath]
    rfl

/-- What a runner of a redirect asks an endpoint for. The request for a part of a statement is built
unless the token or the host cannot be named. It goes to the scheme, the host and the port of the
address of the redirect. If this address ends in its path, the request asks for the statement, with
the part, the time zone and the session in its query, and nothing else. If not, the path of the
request is that of the interface, whichever statement is meant. -/
theorem fetch_asks_endpoint (huri : Url.ofString redirect.uri = .ok u)
    (hscheme : u.scheme = "http" ∨ u.scheme = "https") (htoken : redirect.token ≠ "")
    (settings : CursorSettings) :
    ∃ base x, redirect.runner settings = .ok x ∧ x.sessionId = settings.sessionId ∧
      x.service = .rest base (.fixed ⟨redirect.token, htoken⟩) settings.maintenance ∧
      ∀ (statementId : Uuid) (part : Int),
        let request := (Question.status statementId part x.sessionId).request base redirect.token
          settings.maintenance
        ((∃ r, request = .ok r) ↔
          redirect.token.toList.all HttpRequest.isHeaderChar = true ∧ u.isNameable = true) ∧
        ∀ r, request = .ok r →
          r.method = .get ∧ r.url.scheme = u.scheme ∧ r.url.host = u.host ∧ r.url.port = u.port ∧
          (u.query = none ∧ u.fragment = none →
            r.url.path = .segments ["v2".toList, "statements".toList, statementId.text] ∧
            r.url.queryPairs = [("partitionID", String.ofList (Integer.text part)),
              ("timezone", "UTC")] ++ settings.sessionId.toList.map fun id => ("sessionID", id)) ∧
          (¬ (u.query = none ∧ u.fragment = none) → r.url.path = .segments ["v2".toList]) := by
  obtain ⟨segments, hlegible, -⟩ := isLegible_of_read huri (kind_of_web hscheme)
  refine ⟨_, _, runner_of_ofString huri (kind_of_web hscheme) htoken settings, rfl, rfl,
    fun statementId part => ?_⟩
  obtain ⟨sent, hurl, hsent, hhost, hport, hplain, htail⟩ :=
    ofString_status hlegible statementId part settings.sessionId
  have hhasHost : sent.hasHost = true := by
    rw [← hlegible.hasHost]
    unfold hasHost hostText?
    rw [hhost]
  have hname : sent.isNameable = u.isNameable := by
    unfold isNameable authority
    rw [hhost, hport]
  have hscheme' : sent.scheme = "http" ∨ sent.scheme = "https" := by rwa [hsent]
  intro request
  refine ⟨?_, fun r hr => ?_⟩
  · rw [← hname]
    exact HttpRequest.exists_build_iff hurl hhasHost hscheme'
  · have hbuilt := Question.built_of_request hr
    obtain ⟨hrscheme, hrhost, hrport, hrpath, hrquery⟩ := hbuilt.sent hurl
    refine ⟨hbuilt.method, hrscheme.trans hsent, hrhost.trans hhost, hrport.trans hport,
      fun h => ?_, fun h => hrpath.trans (htail h)⟩
    obtain ⟨hquery, hpath⟩ := hplain h
    refine ⟨hrpath.trans hpath, ?_⟩
    unfold queryPairs
    rw [hrquery, hquery]
    exact Form.pairs_append [] _

/-- The path of an address without a query is replaced by that of the statement. -/
theorem fetch_asks_plain_endpoint :
    let redirect : Redirect := { uri := "http://a/results", token := "t", kind := .resultSet }
    let settings : CursorSettings :=
      { hints := false, maintenance := false, sessionId := some "s", handshakeTimeout := 0,
        pollInterval := 1 }
    let statementId : Uuid := ⟨List.replicate 32 1, rfl⟩
    ∃ base x, redirect.runner settings = .ok x ∧
      x.service = .rest base (.fixed ⟨"t", by decide⟩) false ∧
      ∃ r, (Question.status statementId 3 x.sessionId).request base "t" false = .ok r ∧
        r.method = .get ∧ r.url.scheme = "http" ∧ r.url.host = some (.domain ['a']) ∧
        r.url.port = none ∧
        r.url.path = .segments ["v2".toList, "statements".toList, statementId.text] ∧
        r.url.queryPairs = [("partitionID", "3"), ("timezone", "UTC"), ("sessionID", "s")] := by
  intro redirect settings statementId
  let u : Url :=
    { scheme := "http", host := some (.domain ['a']), path := .segments ["results".toList] }
  have huri : Url.ofString redirect.uri = .ok u := by decide +kernel
  obtain ⟨base, x, hx, -, hservice, hasked⟩ :=
    fetch_asks_endpoint huri (.inl rfl) (by decide : redirect.token ≠ "") settings
  obtain ⟨hbuilt, hsent⟩ := hasked statementId 3
  obtain ⟨r, hr⟩ := hbuilt.mpr (by decide)
  obtain ⟨hmethod, hscheme, hhost, hport, hplain, -⟩ := hsent r hr
  obtain ⟨hpath, hpairs⟩ := hplain ⟨rfl, rfl⟩
  exact ⟨base, x, hx, hservice, r, hr, hmethod, hscheme, hhost, hport, hpath,
    hpairs.trans (by decide)⟩

/-- A query of the address swallows the statement. -/
theorem query_of_address_swallows_statement :
    let redirect : Redirect := { uri := "http://a/results?x=1", token := "t", kind := .resultSet }
    let settings : CursorSettings :=
      { hints := false, maintenance := false, sessionId := none, handshakeTimeout := 0,
        pollInterval := 1 }
    let statementId : Uuid := ⟨List.replicate 32 1, rfl⟩
    ∃ base x r, redirect.runner settings = .ok x ∧
      x.service = .rest base (.fixed ⟨"t", by decide⟩) false ∧
      (Question.status statementId 0 x.sessionId).request base "t" false = .ok r ∧
      r.url.path ≠ .segments ["v2".toList, "statements".toList, statementId.text] ∧
      r.url.target = ("/v2?x=1/statements/11111111-1111-1111-1111-111111111111" ++
        "&partitionID=0&timezone=UTC").toList := by
  intro redirect settings statementId
  let x : Runner :=
    { service := .rest "http://a/v2?x=1" (.fixed ⟨"t", by decide⟩) false, keepsContext := false,
      sessionId := none, pollInterval := 1, endpoint := .dataplane }
  let sent : HttpRequest :=
    { method := .get
      url :=
        { scheme := "http"
          host := some (.domain ['a'])
          path := .segments ["v2".toList]
          query := some ("x=1/statements/11111111-1111-1111-1111-111111111111" ++
            "&partitionID=0&timezone=UTC").toList }
      authorization := "Bearer t"
      maintenance := false }
  exact ⟨"http://a/v2?x=1", x, sent, by decide +kernel, rfl, by decide +kernel, by decide,
    by decide +kernel⟩

end Redirect

end Tributary
