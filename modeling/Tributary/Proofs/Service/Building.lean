import Tributary.Service.Http

/-!
# Building requests

A request goes to the URL that its text is read as, with pairs added to the query and, as a rule,
without credentials. It can be built if the host can be named and a header can hold the token.
-/

namespace Tributary.HttpRequest

open Text

variable {method : HttpMethod} {text token : String} {pairs : List (String × String)}
  {maintenance : Bool} {r : HttpRequest} {url : Url}

/-- A request that is put together: the pairs are added to the query of its URL, and its header
carries the token. -/
structure Built (method : HttpMethod) (text : String) (pairs : List (String × String))
    (token : String) (r : HttpRequest) : Prop where
  method : r.method = method
  url : ∃ u, Url.ofString text = .ok u ∧
    r.url = if pairs.isEmpty then stripped u else (stripped u).withPairs pairs
  authorization : r.authorization = bearer token

theorem of_build_eq_ok (h : build method text pairs token maintenance = .ok r) :
    Built method text pairs token r := by
  unfold build at h
  split at h
  · cases h
  next u hu =>
    split at h
    · split at h
      · dsimp only at h
        generalize hurl : (if pairs.isEmpty then stripped u else (stripped u).withPairs pairs) = url
          at h
        split at h
        · cases h
          exact ⟨rfl, ⟨u, hu, hurl.symm⟩, rfl⟩
        · cases h
      · cases h
    · cases h

theorem stripped_cases (url : Url) :
    stripped url = url ∨ stripped url = url.withoutCredentials := by
  unfold stripped
  split
  · exact .inl rfl
  · dsimp only
    split
    · exact .inl rfl
    · exact .inr rfl

/-- What is sent differs from a URL in its credentials and its query only. -/
theorem sent_spec {url sent : Url} {pairs : List (String × String)}
    (h : (if pairs.isEmpty then stripped url else (stripped url).withPairs pairs) = sent) :
    sent.scheme = url.scheme ∧ sent.host = url.host ∧ sent.port = url.port ∧
      sent.path = url.path ∧
      sent.query =
        if pairs.isEmpty then url.query else some (Form.append (url.query.getD []) pairs) := by
  rw [← h]
  rcases stripped_cases url with h | h <;> rw [h] <;> split <;> exact ⟨rfl, rfl, rfl, rfl, rfl⟩

/-- A request is built for each URL with a host that it can name and a token that a header can
hold. -/
theorem exists_build_iff (hurl : Url.ofString text = .ok url) (hhost : url.hasHost = true)
    (hscheme : url.scheme = "http" ∨ url.scheme = "https") :
    (∃ r, build method text pairs token maintenance = .ok r) ↔
      token.toList.all isHeaderChar = true ∧ url.isNameable = true := by
  unfold build
  rw [hurl]
  dsimp only
  rw [if_pos hhost]
  generalize hsent : (if pairs.isEmpty then stripped url else (stripped url).withPairs pairs) = sent
  obtain ⟨hsent, hsenthost, hsentport, -⟩ := sent_spec hsent
  have hname : sent.isNameable = url.isNameable := by
    unfold Url.isNameable Url.authority
    rw [hsenthost, hsentport]
  rw [hsent, hname]
  by_cases htoken : token.toList.all isHeaderChar = true
  · rw [if_pos htoken]
    by_cases hname : url.isNameable = true
    · rw [if_pos ⟨hscheme, hname⟩]
      exact ⟨fun _ => ⟨htoken, hname⟩, fun _ => ⟨_, rfl⟩⟩
    · rw [if_neg fun h => hname h.2]
      exact ⟨fun ⟨_, h⟩ => (nomatch h), fun h => absurd h.2 hname⟩
  · rw [if_neg htoken]
    exact ⟨fun ⟨_, h⟩ => (nomatch h), fun h => absurd h.1 htoken⟩

/-- A request that was built goes to the URL that was read, with the pairs in its query. -/
theorem Built.sent (h : Built method text pairs token r) (hurl : Url.ofString text = .ok url) :
    r.url.scheme = url.scheme ∧ r.url.host = url.host ∧ r.url.port = url.port ∧
      r.url.path = url.path ∧
      r.url.query =
        if pairs.isEmpty then url.query else some (Form.append (url.query.getD []) pairs) := by
  obtain ⟨u, hu, hsent⟩ := h.url
  obtain rfl : u = url := Except.ok.inj (hu.symm.trans hurl)
  exact sent_spec hsent.symm

end Tributary.HttpRequest
