import Tributary.Proofs.Params.Server
import Tributary.Proofs.Service.Building
import Tributary.Proofs.Text.Form
import Tributary.Service.Question

/-!
# Where requests go

The paths of questions are appended to the base of a service. Where this is a URL that ends in its
path, the path of the request goes on with the segments of the question: what it names is one
segment each, in which the name is found again. Only the names `.` and `..` are no segments.
-/

namespace Tributary

open Text Url

/-! ## Segments of questions -/

namespace Url.Path

/-- The segment of a name. -/
def named (name : String) : List Char := percentEncode isUnreserved name.toList

theorem isInner_of_mem_named (name : String) : ∀ c ∈ named name, IsInner c :=
  forall_mem_component (by decide) (by decide) name.toList

/-- A name is found again in its segment. -/
theorem percentDecode_named (name : String) : percentDecode (named name) = utf8 name.toList :=
  percentDecode_percentEncode (by decide) name.toList

theorem named_injective {name name' : String} (h : named name = named name') : name = name' := by
  have hutf8 : utf8 name.toList = utf8 name'.toList := by
    rw [← percentDecode_named, h, percentDecode_named]
  have hdecoded := congrArg Utf8.decode? hutf8
  rw [Utf8.decode?_utf8, Utf8.decode?_utf8] at hdecoded
  exact String.toList_inj.mp (Option.some.inj hdecoded)

/-- Every name but two is a segment. -/
theorem isSegment_named {name : String} (hsingle : name ≠ ".") (hdouble : name ≠ "..") :
    IsSegment (named name) := by
  have hdots (count : Nat) (h : plainDots (named name) = List.replicate count '.') :
      name.toList = List.replicate count '.' := by
    have hutf8 := percentDecode_of_plainDots h
    rw [percentDecode_named] at hutf8
    have hdecoded := congrArg Utf8.decode? hutf8
    rw [Utf8.decode?_utf8, Utf8.decode?_utf8] at hdecoded
    exact Option.some.inj hdecoded
  refine ⟨isInner_of_mem_named name, ?_, ?_⟩
  · rw [isSingleDot, beq_eq_false_iff_ne]
    exact fun h => hsingle (String.toList_inj.mp (hdots 1 h))
  · rw [isDoubleDot, beq_eq_false_iff_ne]
    exact fun h => hdouble (String.toList_inj.mp (hdots 2 h))

end Url.Path

namespace Uuid

/-- What the hyphen and the hexadecimal digits have, the characters of an identifier have. -/
theorem forall_mem_text {P : Char → Prop} (hhyphen : P '-') (hdigit : ∀ d, P (hexChar d))
    (u : Uuid) : ∀ c ∈ u.text, P c := by
  have hdigits : ∀ c ∈ u.digits.map hexChar, P c := by
    rw [List.forall_mem_map]
    exact fun d _ => hdigit d
  have htake {n m : Nat} : ∀ c ∈ ((u.digits.map hexChar).drop n).take m, P c :=
    fun c hc => hdigits c (List.mem_of_mem_drop (List.mem_of_mem_take hc))
  unfold text hyphenate
  simp only [List.forall_mem_append, List.forall_mem_cons]
  exact ⟨⟨⟨⟨fun c hc => hdigits c (List.mem_of_mem_take hc), hhyphen, htake⟩, hhyphen, htake⟩,
    hhyphen, htake⟩, hhyphen, fun c hc => hdigits c (List.mem_of_mem_drop hc)⟩

theorem isSegment_text (u : Uuid) : Path.IsSegment u.text :=
  Path.isSegment_of_forall (forall_mem_text (by decide) (by decide) u)

end Uuid

namespace Question

/-- The segments that the path of a question consists of. -/
def segments : Question → List (List Char)
  | .submit _ _ => ["statements".toList]
  | .status statementId _ _ => ["statements".toList, statementId.text]
  | .version => ["version".toList]
  | .download type organization name =>
    ["download".toList, type.word.toList, organization.text, Path.named name]

theorem toList_path (q : Question) : q.path.toList = Path.text (.segments q.segments) := by
  cases q with
  | submit _ _ =>
      show "/statements".toList = Path.text (.segments ["statements".toList])
      decide
  | status statementId _ _ =>
      simp [path, segments, Path.text, Uuid.toString, String.toList_append]
  | version =>
      show "/version".toList = Path.text (.segments ["version".toList])
      decide
  | download type organization name =>
      simp [path, segments, Path.text, Uuid.toString, percentComponent, Path.named,
        String.toList_append]

theorem segments_ne_nil (q : Question) : q.segments ≠ [] := by
  cases q <;> exact List.cons_ne_nil _ _

theorem isSegment_word (type : ResourceType) : Path.IsSegment type.word.toList := by
  cases type <;> exact Path.isSegment_of_forall (forall_mem_of_all (by decide))

theorem isInner_of_mem_segments (q : Question) :
    ∀ segment ∈ q.segments, ∀ c ∈ segment, Path.IsInner c := by
  have hword (word : List Char) (h : ∀ c ∈ word, Path.IsInner c) :
      ∀ segment ∈ [word], ∀ c ∈ segment, Path.IsInner c := List.forall_mem_singleton.mpr h
  cases q with
  | submit _ _ => exact hword "statements".toList (forall_mem_of_all (by decide))
  | status statementId _ _ =>
      simp only [segments, List.forall_mem_cons]
      exact ⟨forall_mem_of_all (by decide), statementId.isSegment_text.inner, nofun⟩
  | version => exact hword "version".toList (forall_mem_of_all (by decide))
  | download type organization name =>
      simp only [segments, List.forall_mem_cons]
      exact ⟨forall_mem_of_all (by decide), (isSegment_word type).inner,
        organization.isSegment_text.inner, Path.isInner_of_mem_named name, nofun⟩

/-- Whether a resource is asked for by a name that is taken for dots. -/
def IsDotted (q : Question) : Prop :=
  ∃ type organization name, q = .download type organization name ∧ (name = "." ∨ name = "..")

/-- The segments of all other questions stand for themselves. -/
theorem areSegments_segments {q : Question} (h : ¬ q.IsDotted) : Path.AreSegments q.segments := by
  have hword {word : List Char} (hall : ∀ c ∈ word, Path.IsInner c ∧ c ≠ '%' ∧ c ≠ '.') :
      Path.IsSegment word := Path.isSegment_of_forall hall
  cases q with
  | submit _ _ => exact List.forall_mem_singleton.mpr (hword (forall_mem_of_all (by decide)))
  | status statementId _ _ =>
      simp only [Path.AreSegments, segments, List.forall_mem_cons]
      exact ⟨hword (forall_mem_of_all (by decide)), statementId.isSegment_text, nofun⟩
  | version => exact List.forall_mem_singleton.mpr (hword (forall_mem_of_all (by decide)))
  | download type organization name =>
      have hname : name ≠ "." ∧ name ≠ ".." :=
        ⟨fun hdot => h ⟨type, organization, name, rfl, .inl hdot⟩,
          fun hdots => h ⟨type, organization, name, rfl, .inr hdots⟩⟩
      simp only [Path.AreSegments, segments, List.forall_mem_cons]
      exact ⟨hword (forall_mem_of_all (by decide)), isSegment_word type,
        organization.isSegment_text, Path.isSegment_named hname.1 hname.2, nofun⟩

theorem built_of_request {q : Question} {base token : String} {maintenance : Bool}
    {r : HttpRequest} (h : q.request base token maintenance = .ok r) :
    HttpRequest.Built q.method (base ++ q.path) q.pairs token r :=
  HttpRequest.of_build_eq_ok h

end Question

namespace Url

theorem kind_of_web {u : Url} (h : u.scheme = "http" ∨ u.scheme = "https") : u.kind = .special := by
  unfold kind
  rcases h with h | h <;> rw [h] <;> rfl

namespace IsLegible

variable {u : Url} {segments : List (List Char)}

theorem hasHost (h : u.IsLegible segments) : u.hasHost = true := by
  obtain ⟨host, hhost, hspecial⟩ := h.host
  unfold Url.hasHost hostText?
  rw [hhost]
  cases host with
  | empty => exact hspecial.elim
  | domain name => rfl
  | ipv4 address => rfl
  | ipv6 address => rfl

/-- What a request below a URL that ends in its path is sent to. -/
theorem ofString_path (h : u.IsLegible segments) (hquery : u.query = none)
    (hfragment : u.fragment = none) (q : Question) :
    Url.ofString (String.ofList (Server.trimSlashes u.text) ++ q.path) = .ok { u with
      path := .segments (Path.pushAll .special [] (directory segments ++ q.segments)) } := by
  unfold Url.ofString
  rw [String.toList_append, String.toList_ofList, q.toList_path]
  exact h.read_append_segments hquery hfragment q.segments_ne_nil q.isInner_of_mem_segments

end IsLegible

end Url

end Tributary
