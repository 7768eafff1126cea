import Tributary.Client.Connection
import Tributary.Proofs.Service.Requests

/-!
# Normal addresses

The address of a server is written from parts of a URL: its scheme, its host, its port and its path
without slashes at the end. What is written is read as a URL of just these parts, so nothing is left
to drop when it is normalized again, and the base of a service is found by the same trimming. The
path of a request goes on where the address ends.

An address may end in its host. Then the path that is read is a slash, which is trimmed again.
-/

namespace Tributary

open Text Url

/-! ## The URL of an address -/

namespace Url

theorem directory_directory (segments : List (List Char)) :
    directory (directory segments) = directory segments :=
  List.rdropWhile_idempotent List.isEmpty segments

/-- The segments that are read where some are written; none are read as an empty one. -/
def rooted (segments : List (List Char)) : List (List Char) :=
  if segments = [] then [[]] else segments

theorem directory_rooted (segments : List (List Char)) :
    directory (rooted segments) = directory segments := by
  unfold rooted
  split
  next hnil =>
    rw [hnil]
    rfl
  next => rfl

/-- The URL that an address is read as, from the URL that it was taken from. -/
def addressed (u : Url) (segments : List (List Char)) : Url :=
  { u.bare with path := .segments (rooted (directory segments)) }

namespace IsLegible

variable {u : Url} {segments : List (List Char)}

theorem addressed (h : u.IsLegible segments) :
    (u.addressed segments).IsLegible (rooted (directory segments)) where
  scheme := h.scheme
  host := h.host
  username := nofun
  password := nofun
  port := h.port
  path := rfl
  nonempty := by
    unfold rooted
    split
    next => exact List.cons_ne_nil _ _
    next hne => exact hne
  inner := by
    unfold rooted
    split
    next => exact List.forall_mem_singleton.mpr nofun
    next => exact fun segment hsegment => h.inner segment (directory_subset hsegment)
  query := nofun
  fragment := nofun

theorem areSegments_rooted (hsegments : Path.AreSegments segments) :
    Path.AreSegments (rooted (directory segments)) := by
  unfold rooted
  split
  next => exact List.forall_mem_singleton.mpr Path.isSegment_nil
  next => exact fun segment hsegment => hsegments segment (directory_subset hsegment)

/-- What is written before the path of an address. -/
theorem front_addressed (u : Url) (segments : List (List Char)) :
    front (u.addressed segments) = u.scheme.toList ++ [':', '/', '/'] ++ u.authority := by
  unfold front
  rw [List.append_assoc]
  rfl

/-- The text of an address is that of its URL without slashes at the end. -/
theorem trimSlashes_addressed (h : u.IsLegible segments) :
    Server.trimSlashes (u.addressed segments).text =
      front (u.addressed segments) ++ Path.text (.segments (directory segments)) := by
  have htext : (u.addressed segments).text = front (u.addressed segments) ++
      Path.text (.segments (rooted (directory segments))) := by
    rw [h.addressed.text_eq_front]
    show _ ++ _ ++ [] ++ [] = _
    rw [List.append_nil, List.append_nil]
    rfl
  rw [htext, trimSlashes_path h.addressed.trimSlashes_front h.addressed.ne_slash, directory_rooted,
    directory_directory]

/-- An address that ends in its host is read with a slash as its path. -/
theorem read_front (h : u.IsLegible segments) :
    Url.read (front u) = .ok { u with
      path := .segments [[]]
      query := none
      fragment := none } := by
  have hnone : ∀ c ∈ ([] : List Char), 0x20 < c.toNat := nofun
  have hread := h.read_eq_readAuthority hnone
  rw [List.append_nil] at hread
  unfold front
  rw [hread]
  have hend : ∀ c, ([] : List Char).head? = some c → endsAuthority .special c = true := nofun
  have hauthority := h.readAuthority_append hend
  rw [List.append_nil] at hauthority
  rw [hauthority]
  rfl

/-- An address is read as its URL. -/
theorem read_trimSlashes (h : u.IsLegible segments) (hsegments : Path.AreSegments segments) :
    Url.read (Server.trimSlashes (u.addressed segments).text) = .ok (u.addressed segments) := by
  rw [h.trimSlashes_addressed]
  by_cases hnil : directory segments = []
  · have hrooted : rooted (directory segments) = [[]] := if_pos hnil
    rw [hnil]
    show Url.read (_ ++ []) = _
    rw [List.append_nil, h.addressed.read_front]
    unfold Url.addressed
    rw [hrooted]
    rfl
  · have hrooted : rooted (directory segments) = directory segments := if_neg hnil
    have htext : front (u.addressed segments) ++ Path.text (.segments (directory segments)) =
        (u.addressed segments).text := by
      rw [h.addressed.text_eq_front]
      show _ = _ ++ Path.text (.segments (rooted (directory segments))) ++ [] ++ []
      rw [hrooted, List.append_nil, List.append_nil]
    rw [htext]
    exact h.addressed.read_text_of_areSegments (areSegments_rooted hsegments)

end IsLegible

end Url

/-! ## Normal addresses -/

namespace Server

variable {server text : String} {u v : Url}

/-- The text of an address is written from the parts of its URL. -/
theorem toString_addressed {segments : List (List Char)} (h : u.IsLegible segments) :
    String.ofList (u.scheme.toList ++ [':', '/', '/'] ++ u.authority ++ trimSlashes u.path.text) =
      String.ofList (trimSlashes (u.addressed segments).text) := by
  have hnone : trimSlashes [] = [] := rfl
  have hpath : trimSlashes u.path.text = Path.text (.segments (directory segments)) := by
    rw [h.path]
    exact trimSlashes_path hnone h.ne_slash
  rw [h.trimSlashes_addressed, IsLegible.front_addressed, hpath]

/-- A URL of the web is reduced to the text of its address. -/
theorem ofUrl_of_isLegible {segments : List (List Char)} (h : u.IsLegible segments)
    (hscheme : u.scheme = "http" ∨ u.scheme = "https") :
    ofUrl u = .ok (String.ofList (trimSlashes (u.addressed segments).text)) := by
  have hweb : ¬ (u.scheme ≠ "http" ∧ u.scheme ≠ "https") := by
    rintro ⟨hhttp, hhttps⟩
    exact hscheme.elim hhttp hhttps
  unfold ofUrl
  rw [if_neg hweb, if_pos h.hasHost, toString_addressed h]

theorem of_ofUrl_eq_ok (h : ofUrl u = .ok text) : u.scheme = "http" ∨ u.scheme = "https" := by
  unfold ofUrl at h
  split at h
  next => cases h
  next hweb =>
    rw [not_and_or, not_not, not_not] at hweb
    exact hweb

/-- What is normal is the text of the address of a URL of the web. -/
theorem of_normalize_eq_ok (h : normalize server = .ok text) :
    ∃ (u : Url) (segments : List (List Char)),
      (u.scheme = "http" ∨ u.scheme = "https") ∧ u.IsLegible segments ∧
        Path.AreSegments segments ∧
        text = String.ofList (trimSlashes (u.addressed segments).text) := by
  obtain ⟨u, hread, hreduced⟩ := of_bind_eq_ok (x := readUrl server) (f := ofUrl) h
  have hscheme := of_ofUrl_eq_ok hreduced
  obtain ⟨segments, hlegible, hsegments⟩ :=
    isLegible_of_read (of_mapError_eq_ok hread) (kind_of_web hscheme)
  rw [ofUrl_of_isLegible hlegible hscheme] at hreduced
  exact ⟨u, segments, hscheme, hlegible, hsegments, (Except.ok.inj hreduced).symm⟩

/-- What an address is read as has all parts of an address, and no others. -/
structure IsAddress (text : String) (u : Url) : Prop where
  read : Url.ofString text = .ok u
  scheme : u.scheme = "http" ∨ u.scheme = "https"
  hasHost : u.hasHost = true
  username : u.username = []
  password : u.password = none
  query : u.query = none
  fragment : u.fragment = none
  trimmed : text.toList.getLast? ≠ some '/'

/-- An address that all agree on: it stays as it is where it is normalized again and where it is
taken as the base of a service. Each request below it goes to the URL that is read where the path of
the question is appended to it, which is written just so unless it names a resource by dots. -/
structure Settled (text : String) (u : Url) : Prop where
  address : IsAddress text u
  normal : normalize text = .ok text
  base : Server.base text = .ok text
  exists_request (q : Question) (token : String) (maintenance : Bool) :
    (∃ r, q.request text token maintenance = .ok r) ↔
      token.toList.all HttpRequest.isHeaderChar = true ∧ u.isNameable = true
  built (q : Question) (token : String) (maintenance : Bool) (r : HttpRequest)
    (h : q.request text token maintenance = .ok r) :
    HttpRequest.Built q.method (text ++ q.path) q.pairs token r
  url (q : Question) (token : String) (maintenance : Bool) (r : HttpRequest)
    (h : q.request text token maintenance = .ok r) (hdots : ¬ q.IsDotted) :
    ({ r.url with query := none } : Url).toString = text ++ q.path

theorem getLast?_trimSlashes (cs : List Char) : (trimSlashes cs).getLast? ≠ some '/' := by
  intro h
  have hne : trimSlashes cs ≠ [] := by
    intro hnil
    rw [hnil] at h
    cases h
  rw [List.getLast?_eq_getLast_of_ne_nil hne] at h
  have hlast := List.rdropWhile_last_not (· == '/') cs hne
  exact hlast (beq_iff_eq.mpr (Option.some.inj h))

section

variable {segments : List (List Char)}

theorem addressed_addressed (u : Url) (segments : List (List Char)) :
    (u.addressed segments).addressed (rooted (directory segments)) = u.addressed segments := by
  unfold Url.addressed
  rw [directory_rooted, directory_directory]
  rfl

theorem isAddress_addressed (h : u.IsLegible segments) (hsegments : Path.AreSegments segments)
    (hscheme : u.scheme = "http" ∨ u.scheme = "https") :
    IsAddress (String.ofList (trimSlashes (u.addressed segments).text)) (u.addressed segments) where
  read := by
    unfold Url.ofString
    rw [String.toList_ofList]
    exact h.read_trimSlashes hsegments
  scheme := hscheme
  hasHost := h.addressed.hasHost
  username := rfl
  password := rfl
  query := rfl
  fragment := rfl
  trimmed := by
    rw [String.toList_ofList]
    exact getLast?_trimSlashes _

/-- What is asked below an address is asked for without credentials, and with the pairs of the
question alone in the query. -/
theorem url_of_built {q : Question} {token : String} {r : HttpRequest}
    (hbuilt : HttpRequest.Built q.method (text ++ q.path) q.pairs token r)
    (hread : Url.ofString (text ++ q.path) = .ok v) (husername : v.username = [])
    (hpassword : v.password = none) (hquery : v.query = none) :
    ({ r.url with query := none } : Url) = v := by
  have hstripped : HttpRequest.stripped v = v := by
    rcases HttpRequest.stripped_cases v with h | h
    · exact h
    · rw [h, withoutCredentials, ← husername, ← hpassword]
  have hnone : ({ v with query := none } : Url) = v := by rw [← hquery]
  obtain ⟨w, hw, hurl⟩ := hbuilt.url
  obtain rfl : w = v := Except.ok.inj (hw.symm.trans hread)
  rw [hurl, hstripped]
  split
  next => exact hnone
  next => exact hnone

theorem settled_addressed (h : u.IsLegible segments) (hsegments : Path.AreSegments segments)
    (hscheme : u.scheme = "http" ∨ u.scheme = "https") :
    Settled (String.ofList (trimSlashes (u.addressed segments).text)) (u.addressed segments) := by
  have haddress := isAddress_addressed h hsegments hscheme
  have hurl (q : Question) := h.addressed.ofString_path rfl rfl q
  constructor
  case address => exact haddress
  case normal =>
    have hreduced := ofUrl_of_isLegible h.addressed hscheme
    rw [addressed_addressed] at hreduced
    unfold normalize readUrl
    rw [haddress.read]
    exact hreduced
  case base => exact base_of_ofString haddress.read
  case exists_request =>
    intro q token maintenance
    exact (HttpRequest.exists_build_iff (hurl q) h.addressed.hasHost hscheme).trans Iff.rfl
  case built =>
    intro q token maintenance r hr
    exact Question.built_of_request hr
  case url =>
    intro q token maintenance r hr hdots
    have hadded : Path.AreSegments (directory (rooted (directory segments)) ++ q.segments) := by
      refine List.forall_mem_append.mpr ⟨?_, Question.areSegments_segments hdots⟩
      intro segment hsegment
      exact IsLegible.areSegments_rooted hsegments segment (directory_subset hsegment)
    rw [url_of_built (Question.built_of_request hr) (hurl q) rfl rfl rfl,
      Path.pushAll_of_areSegments [] hadded, List.nil_append]
    unfold Url.toString
    rw [h.addressed.text_extended rfl rfl q.segments_ne_nil q.isInner_of_mem_segments,
      String.ofList_append, ← q.toList_path, String.ofList_toList]

end

theorem settled_of_normalize (h : normalize server = .ok text) : ∃ u, Settled text u := by
  obtain ⟨u, segments, hscheme, hlegible, hsegments, rfl⟩ := of_normalize_eq_ok h
  exact ⟨u.addressed segments, settled_addressed hlegible hsegments hscheme⟩

end Server

/-! ## The address of a connection -/

/-- What parameters that are built come from. -/
theorem Builder.of_build_eq_ok {b : Builder} {p : Params} (h : b.build = .ok p) :
    Server.normalize (b.server.getD defaultServer) = .ok p.server ∧ b.tokens = .ok p.tokens ∧
      p.connectTimeout = b.connectTimeout.getD (.ofSeconds 30) ∧
      p.pollInterval = b.pollInterval.getD (.ofSeconds 1) ∧
      p.streamBuffer = b.streamBuffer.getD 30 := by
  unfold build at h
  obtain ⟨server, hserver, h⟩ := of_bind_eq_ok h
  obtain ⟨tokens, htokens, h⟩ := of_bind_eq_ok h
  dsimp only at h
  split at h
  next =>
    split at h
    next =>
      split at h
      next =>
        cases h
        exact ⟨hserver, htokens, rfl, rfl, rfl⟩
      next => cases h
    next => cases h
  next => cases h

theorem ConnectionString.build_of_read {uri : String} {p : Params} (h : read uri = .ok p) :
    ∃ settings, ConnectionString.settings uri = .ok settings ∧
      (Builder.setAll {} settings).build = .ok p :=
  of_bind_eq_ok h

/-- A connection talks to the address of its parameters. -/
theorem Connection.connect_of_settled {p : Params} {u : Url} (h : Server.Settled p.server u)
    (environment : Bool) : Connection.connect p environment = .ok
      { params := p, service := .rest p.server .asked false, maintenance := environment } := by
  unfold Connection.connect Connection.serviceOf
  rw [h.base]
  rfl

/-- What the address of a server is reduced to is an address that all agree on: it is read as a URL
of the web with a host, without credentials, query and fragment and without slashes at its end; it
is its own normal form, and the base that requests are put below. So is the address of a connection
string, and the connection that is made with it sends its requests there. -/
theorem Server.normalization_is_projection :
    (∀ server text, Server.normalize server = .ok text → ∃ u, Server.Settled text u) ∧
      ∀ uri p, ConnectionString.read uri = .ok p →
        (∃ u, Server.Settled p.server u) ∧
          ∀ environment, Connection.connect p environment = .ok
            { params := p, service := .rest p.server .asked false,
              maintenance := environment } := by
  refine ⟨fun server text => Server.settled_of_normalize, fun uri p hp => ?_⟩
  obtain ⟨settings, -, hbuild⟩ := ConnectionString.build_of_read hp
  obtain ⟨u, hsettled⟩ := Server.settled_of_normalize (Builder.of_build_eq_ok hbuild).1
  exact ⟨⟨u, hsettled⟩, fun environment => Connection.connect_of_settled hsettled environment⟩

/-- An address in capitals with credentials, the port of its scheme and dots in its path, and one
that ends in its port. -/
theorem Server.normalization_of_untidy_addresses :
    (Server.normalize " HTTP://me:pw@EXAMPLE.com:80\\a/./b/../c%2f//?q#f " =
        .ok "http://example.com/a/c%2f" ∧ ∃ u, Server.Settled "http://example.com/a/c%2f" u) ∧
      ∃ p, ConnectionString.read "https://_:t@H:8443//?timeout=300" = .ok p ∧
        p.server = "https://h:8443" ∧ (∃ u, Server.Settled p.server u) ∧
        Connection.connect p false = .ok
          { params := p, service := .rest p.server .asked false, maintenance := false } := by
  obtain ⟨hnormal, hstring⟩ := Server.normalization_is_projection
  have haddress : Server.normalize " HTTP://me:pw@EXAMPLE.com:80\\a/./b/../c%2f//?q#f " =
      .ok "http://example.com/a/c%2f" := by decide +kernel
  have hserver : (ConnectionString.read "https://_:t@H:8443//?timeout=300").toOption.map
      (·.server) = some "https://h:8443" := by decide +kernel
  obtain ⟨p, hread, hserver⟩ := exists_of_toOption_map hserver
  obtain ⟨hsettled, hconnect⟩ := hstring _ p hread
  exact ⟨⟨haddress, hnormal _ _ haddress⟩, p, hread, hserver, hsettled, hconnect false⟩

end Tributary
