import Tributary.Proofs.Service.Requests

/-!
# What a download asks for

A resource is asked for by its kind, its organization and its name. Every name but two is one
segment, in which the name is found again; no other name asks for the same. The names `.` and `..`
are taken for dots: the one asks for the directory of the organization, as the empty name does, and
the other for what is above it.
-/

namespace Tributary

open Text Url

namespace Question

variable {server base : String} {u : Url}

/-- The directory of an organization, below a base. -/
def shelf (front : List (List Char)) (type : ResourceType) (organization : Uuid) :
    List (List Char) :=
  front ++ ["download".toList, type.word.toList, organization.text]

theorem areSegments_shelf {front : List (List Char)} (h : Path.AreSegments front)
    (type : ResourceType) (organization : Uuid) :
    Path.AreSegments (shelf front type organization) := by
  have hdownload : Path.IsSegment "download".toList :=
    Path.isSegment_of_forall (forall_mem_of_all (by decide))
  unfold shelf
  simp only [Path.AreSegments, List.forall_mem_append, List.forall_mem_cons]
  exact ⟨h, hdownload, isSegment_word type, organization.isSegment_text, List.forall_mem_nil _⟩

/-- The path that a name is asked for by. -/
theorem pushAll_shelf {front : List (List Char)} (h : Path.AreSegments front)
    (type : ResourceType) (organization : Uuid) (name : String) :
    Path.pushAll .special [] (front ++ (download type organization name).segments) =
      Path.push .special (shelf front type organization) (Path.named name) true := by
  have hconcat := Path.pushAll_concat [] (areSegments_shelf h type organization)
    (Path.named name)
  rw [List.nil_append, shelf, List.append_assoc] at hconcat
  exact hconcat

section

variable {path : List (List Char)} {name name' : String}

theorem push_named (hsingle : name ≠ ".") (hdouble : name ≠ "..") :
    Path.push .special path (Path.named name) true = path ++ [Path.named name] :=
  Path.push_of_isSegment (Path.isSegment_named hsingle hdouble) true

theorem push_dot (path : List (List Char)) :
    Path.push .special path (Path.named ".") true = path ++ [[]] := rfl

theorem push_dots (path : List (List Char)) :
    Path.push .special path (Path.named "..") true = path.dropLast ++ [[]] := rfl

/-- The name that a name is taken for unless it goes up: a dot is taken for no name. -/
def plainName (name : String) : String := if name = "." then "" else name

theorem push_plainName (hdouble : name ≠ "..") :
    Path.push .special path (Path.named name) true = path ++ [Path.named (plainName name)] := by
  unfold plainName
  split
  next hsingle =>
    rw [hsingle]
    exact push_dot path
  next hsingle => exact push_named hsingle hdouble

/-- Nothing else asks for what is above the directory of the organization. -/
theorem push_ne_push_dots (hne : path ≠ []) (hdouble : name ≠ "..") :
    Path.push .special path (Path.named name) true ≠
      Path.push .special path (Path.named "..") true := by
  intro h
  have hpos := List.length_pos_iff.mpr hne
  have hlength := congrArg List.length h
  rw [push_plainName hdouble, push_dots, List.length_append, List.length_append,
    List.length_dropLast, List.length_singleton, List.length_singleton] at hlength
  omega

theorem eq_or_of_plainName_eq (h : plainName name = plainName name') :
    name = name' ∨ (name = "" ∨ name = ".") ∧ (name' = "" ∨ name' = ".") := by
  unfold plainName at h
  split at h
  next hdot =>
    split at h
    next hdot' => exact .inl (hdot.trans hdot'.symm)
    next => exact .inr ⟨.inr hdot, .inl h.symm⟩
  next =>
    split at h
    next hdot' => exact .inr ⟨.inl h, .inr hdot'⟩
    next => exact .inl h

/-- Different names ask for different things, unless one of them is empty and the other a dot. -/
theorem plainName_of_push_eq (hne : path ≠ []) (h : Path.push .special path (Path.named name) true =
    Path.push .special path (Path.named name') true) : plainName name = plainName name' := by
  by_cases hname : name = ".."
  · by_cases hname' : name' = ".."
    · rw [hname, hname']
    · rw [hname] at h
      exact absurd h.symm (push_ne_push_dots hne hname')
  · by_cases hname' : name' = ".."
    · rw [hname'] at h
      exact absurd h (push_ne_push_dots hne hname)
    · rw [push_plainName hname, push_plainName hname'] at h
      exact Path.named_injective (List.cons.inj (List.append_cancel_left h)).1

end

/-- A download asks for the resource that it names. The request goes to the server, without a
query; its path is that of the server, followed by four segments, and the name is found again in
the last one. Requests for different names go to different URLs. The names `.` and `..` are the
exceptions: a dot asks for the same as the empty name, and two dots leave the directory of the
organization. -/
theorem download_asks_for_name (hserver : Url.ofString server = .ok u)
    (hscheme : u.scheme = "http" ∨ u.scheme = "https") (hquery : u.query = none)
    (hfragment : u.fragment = none) (hbase : Server.base server = .ok base) (type : ResourceType)
    (organization : Uuid) (token : String) (maintenance : Bool) :
    let request (name : String) := (download type organization name).request base token maintenance
    (∀ name, (∃ r, request name = .ok r) ↔
      token.toList.all HttpRequest.isHeaderChar = true ∧ u.isNameable = true) ∧
    (∀ name r, request name = .ok r →
      r.method = .get ∧ r.url.scheme = u.scheme ∧ r.url.host = u.host ∧ r.url.port = u.port ∧
      r.url.query = none ∧
      ∃ front, Server.trimSlashes u.path.text = Path.text (.segments front) ∧
        (name ≠ "." → name ≠ ".." → ∃ segment, percentDecode segment = utf8 name.toList ∧
          r.url.path = .segments (front ++
            ["download".toList, type.word.toList, organization.text, segment])) ∧
        (name = "." → r.url.path = .segments (front ++
          ["download".toList, type.word.toList, organization.text, []])) ∧
        (name = ".." → r.url.path = .segments (front ++
          ["download".toList, type.word.toList, []]))) ∧
    ∀ name name' r r', request name = .ok r → request name' = .ok r' →
      r.url.path = r'.url.path → name = name' ∨
        (name = "" ∨ name = ".") ∧ (name' = "" ∨ name' = ".") := by
  intro request
  obtain ⟨segments, hlegible, hsegments⟩ := isLegible_of_read hserver (kind_of_web hscheme)
  obtain rfl : String.ofList (Server.trimSlashes u.text) = base :=
    Except.ok.inj ((Server.base_of_ofString hserver).symm.trans hbase)
  have hfront : Path.AreSegments (directory segments) :=
    fun segment hsegment => hsegments segment (directory_subset hsegment)
  have hpath : Server.trimSlashes u.path.text = Path.text (.segments (directory segments)) := by
    have hnone : Server.trimSlashes [] = [] := rfl
    rw [hlegible.path]
    exact trimSlashes_path hnone hlegible.ne_slash
  have hurl (name : String) := hlegible.ofString_path hquery hfragment
    (download type organization name)
  have hbuilt (name : String) (r : HttpRequest) (hr : request name = .ok r) := built_of_request hr
  have hshelf (name : String) := pushAll_shelf hfront type organization name
  refine ⟨fun name =>
      (HttpRequest.exists_build_iff (hurl name) hlegible.hasHost hscheme).trans Iff.rfl,
    fun name r hr => ?_, fun name name' r r' hr hr' h => ?_⟩
  · obtain ⟨hrscheme, hrhost, hrport, hrpath, hrquery⟩ := (hbuilt name r hr).sent (hurl name)
    dsimp only at hrpath
    rw [hshelf] at hrpath
    refine ⟨(hbuilt name r hr).method, hrscheme, hrhost, hrport, hrquery.trans hquery,
      directory segments, hpath, fun hsingle hdouble => ?_, ?_, ?_⟩
    · refine ⟨Path.named name, Path.percentDecode_named name, ?_⟩
      rw [hrpath, push_named hsingle hdouble, shelf, List.append_assoc]
      rfl
    · rintro rfl
      rw [hrpath, push_dot, shelf, List.append_assoc]
      rfl
    · rintro rfl
      rw [hrpath, push_dots, shelf]
      simp [List.dropLast_append_of_ne_nil]
  · obtain ⟨-, -, -, hrpath, -⟩ := (hbuilt name r hr).sent (hurl name)
    obtain ⟨-, -, -, hrpath', -⟩ := (hbuilt name' r' hr').sent (hurl name')
    rw [hrpath, hrpath', hshelf, hshelf] at h
    have hne : shelf (directory segments) type organization ≠ [] :=
      List.append_ne_nil_of_right_ne_nil _ (List.cons_ne_nil _ _)
    exact eq_or_of_plainName_eq (plainName_of_push_eq hne (Path.segments.inj h))

/-- A slash in a name is part of its segment. -/
theorem download_of_slash_asks_for_name :
    let organization : Uuid := ⟨List.replicate 32 1, rfl⟩
    let request := (download .functionSource organization "a/b").request "http://h/v2" "t" false
    (request.toOption.map fun r => String.ofList r.url.target) =
        some "/v2/download/function_source/11111111-1111-1111-1111-111111111111/a%2Fb" ∧
      ∃ r, request = .ok r ∧ r.url.host = some (.domain ['h']) ∧ r.url.query = none ∧
        ∃ front, Path.text (.segments front) = "/v2".toList ∧
          ∃ segment, percentDecode segment = utf8 "a/b".toList ∧
            r.url.path = .segments (front ++
              ["download".toList, "function_source".toList, organization.text, segment]) := by
  intro organization request
  let u : Url :=
    { scheme := "http", host := some (.domain ['h']), path := .segments ["v2".toList, []] }
  have hserver : Url.ofString "http://h/v2/" = .ok u := by decide +kernel
  have hbase : Server.base "http://h/v2/" = .ok "http://h/v2" := by decide +kernel
  obtain ⟨hbuilt, hasked, -⟩ := download_asks_for_name hserver (.inl rfl) rfl rfl hbase
    .functionSource organization "t" false
  obtain ⟨r, hr⟩ := (hbuilt "a/b").mpr (by decide)
  obtain ⟨-, -, hhost, -, hquery, front, hfront, hnamed, -⟩ := hasked "a/b" r hr
  exact ⟨by decide +kernel, r, hr, hhost, hquery, front, hfront.symm.trans (by decide),
    hnamed (by decide) (by decide)⟩

/-- Two dots leave the directory of the organization. -/
theorem download_of_dots_leaves_organization :
    let organization : Uuid := ⟨List.replicate 32 1, rfl⟩
    ∃ r, (download .functionSource organization "..").request "http://h/v2" "t" false = .ok r ∧
      r.url.target = "/v2/download/function_source/".toList ∧
      ¬ ∃ segment, percentDecode segment = utf8 "..".toList ∧
        r.url.path = .segments ["v2".toList, "download".toList, "function_source".toList,
          organization.text, segment] := by
  intro organization
  let sent : HttpRequest :=
    { method := .get
      url :=
        { scheme := "http"
          host := some (.domain ['h'])
          path := .segments ["v2".toList, "download".toList, "function_source".toList, []] }
      authorization := "Bearer t"
      maintenance := false }
  refine ⟨sent, by decide +kernel, by decide, ?_⟩
  rintro ⟨segment, -, hpath⟩
  exact absurd (congrArg List.length (Path.segments.inj hpath)) (by simp)

end Question

end Tributary
