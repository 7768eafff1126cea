import Tributary.Proofs.Wire.Stream
import Tributary.Statement.Runner

/-!
# Messages survive a round trip

A text that is read as a message may hold fields that no message has, values that are left out, and
words that are not known. Written again it is a text of the same message, and from then on nothing
changes. Main statement: this is so of every kind of message, and of every body that a runner sends.
-/

namespace Tributary

open Text

namespace Message

variable {α : Type}

/-- The message that a text holds. -/
def parse (read : Json → Option α) (bytes : List UInt8) : Option α :=
  (Json.read? bytes).bind read

/-- The text that a message is written as. -/
def unparse (write : α → Json) (a : α) : List UInt8 :=
  utf8Bytes (write a).toString

/-- The text that the message of a text is written as. -/
def normalize (read : Json → Option α) (write : α → Json) (bytes : List UInt8) :
    Option (List UInt8) :=
  (parse read bytes).map (unparse write)

/-- The messages that some text holds are those that meet a condition. What is read is read again
from what it is written as, and a text that was written is written the same from then on. -/
structure RoundTrips (read : Json → Option α) (write : α → Json) (Canonical : α → Prop) : Prop where
  parsed_iff : ∀ {a : α}, (∃ bytes, parse read bytes = some a) ↔ Canonical a
  parse_unparse : ∀ {bytes : List UInt8} {a : α}, parse read bytes = some a →
    parse read (unparse write a) = some a
  normalize_normalize : ∀ {bytes normal : List UInt8}, normalize read write bytes = some normal →
    normalize read write normal = some normal

section

variable {n : Nat} {read : Json → Option α} {write : α → Json} {Canonical : α → Prop}

theorem parse_unparse_of_writes (h : Json.Writes n read write Canonical) {a : α}
    (ha : Canonical a) : parse read (unparse write a) = some a :=
  h.read_toString ha

/-- A message that is read meets the condition under which it is read as it is written. -/
theorem canonical_of_parse (h : Json.Writes n read write Canonical) {bytes : List UInt8} {a : α}
    (ha : parse read bytes = some a) : Canonical a := by
  obtain ⟨j, -, hread⟩ := Option.bind_eq_some_iff.mp ha
  exact h.canonical hread

theorem roundTrips_of_writes (h : Json.Writes n read write Canonical) :
    RoundTrips read write Canonical where
  parsed_iff {a} :=
    ⟨fun ⟨_, ha⟩ => canonical_of_parse h ha,
      fun ha => ⟨unparse write a, parse_unparse_of_writes h ha⟩⟩
  parse_unparse ha := parse_unparse_of_writes h (canonical_of_parse h ha)
  normalize_normalize {bytes normal} hnormal := by
    obtain ⟨a, ha, rfl⟩ := Option.map_eq_some_iff.mp hnormal
    rw [normalize, parse_unparse_of_writes h (canonical_of_parse h ha), Option.map_some]

end

end Message

namespace ServerMessage

/-- Messages that differ only in the order of their headers. -/
inductive Reordered : ServerMessage → ServerMessage → Prop where
  | metadata {headers headers' : Headers} (h : headers.Perm headers')
    (columns : List StreamColumn) :
    Reordered (.metadata { headers, columns }) (.metadata { headers := headers', columns })
  | data {headers headers' : Headers} (h : headers.Perm headers') (data : Row) :
    Reordered (.data { headers, data }) (.data { headers := headers', data })
  | error {headers headers' : Headers} (h : headers.Perm headers') (message : String)
    (sqlCode : Option SqlState) :
    Reordered (.error { headers, message, sqlCode })
      (.error { headers := headers', message, sqlCode })
  | unknown : Reordered .unknown .unknown

/-- The order of headers does not matter for what may be read. -/
theorem Reordered.inBounds {m m' : ServerMessage} (h : m.Reordered m') (hm : m.InBounds) :
    m'.InBounds := by
  have hdistinct {headers headers' : Headers} (hperm : headers.Perm headers')
      (hheaders : headers.Distinct) : headers'.Distinct :=
    (hperm.map Prod.fst).nodup_iff.mp hheaders
  cases h with
  | metadata hperm columns => exact ⟨hdistinct hperm hm.headers, hm.columns⟩
  | data hperm data => exact hdistinct hperm hm
  | error hperm message sqlCode => exact hdistinct hperm hm
  | unknown => exact hm

end ServerMessage

namespace Message

/-- Every kind of message survives a round trip, whatever its texts: of its values only integers are
bound to their words and names of headers to differ. Headers may be written in any order, and are
read in the order they are written in. The body that a runner sends for any statement, in any
context and session, is read as that body. -/
theorem messages_round_trip :
    RoundTrips StatementBody.read? StatementBody.json (fun _ => True) ∧
    RoundTrips ResultSet.read? ResultSet.json ResultSet.InBounds ∧
    RoundTrips StatementStatus.read? StatementStatus.json StatementStatus.InBounds ∧
    RoundTrips Redirect.read? Redirect.json (fun _ => True) ∧
    RoundTrips Context.read? Context.json (fun _ => True) ∧
    RoundTrips ErrorBody.read? ErrorBody.json (fun _ => True) ∧
    RoundTrips Version.read? Version.json Version.InBounds ∧
    RoundTrips AuthMessage.read? AuthMessage.json (fun _ => True) ∧
    RoundTrips ServerMessage.read? ServerMessage.json ServerMessage.InBounds ∧
    (∀ (bytes : List UInt8) (m m' : ServerMessage), parse ServerMessage.read? bytes = some m →
      m.Reordered m' → parse ServerMessage.read? (unparse ServerMessage.json m') = some m') ∧
    ∀ (x : Runner) (context : Context) (statement : String),
      parse StatementBody.read? (unparse StatementBody.json (x.body context statement)) =
        some (x.body context statement) := by
  refine ⟨roundTrips_of_writes (n := 2) StatementBody.writes,
    roundTrips_of_writes (n := 4) ResultSet.writes,
    roundTrips_of_writes (n := 1) StatementStatus.writes,
    roundTrips_of_writes (n := 1) Redirect.writes, roundTrips_of_writes (n := 1) Context.writes,
    roundTrips_of_writes (n := 1) ErrorBody.writes, roundTrips_of_writes (n := 1) Version.writes,
    roundTrips_of_writes AuthMessage.writes, roundTrips_of_writes ServerMessage.writes, ?_, ?_⟩
  · intro bytes m m' hm hreordered
    exact parse_unparse_of_writes ServerMessage.writes
      (hreordered.inBounds (canonical_of_parse ServerMessage.writes hm))
  · intro x context statement
    exact parse_unparse_of_writes (n := 2) StatementBody.writes trivial

/-- A kind of redirect, a status code and a type of message that are not known, an identifier
without hyphens, an unknown field, fields left out and an escaped character: what they are read as
is read again. So is an error with its headers the other way round. -/
theorem fallbacks_round_trip :
    let redirectText := utf8Bytes
      "\x7b\"uri\":\"u\",\"token\":\"\\u0009\",\"requestType\":\"mirror\"\x7d"
    let redirect : Redirect := { uri := "u", token := "\t", kind := .unknown }
    let resultText := utf8Bytes <|
      "\x7b\"x\":1.5,\"statementID\":\"77777777777777777777777777777777\"," ++
      "\"sqlState\":\"ZZ999\",\"metadata\":\x7b\x7d\x7d"
    let result : ResultSet :=
      { statementId := ⟨List.replicate 32 7, rfl⟩, sqlState := .ofCode "ZZ999" }
    let errorText := utf8Bytes <|
      "\x7b\"headers\":\x7b\"b\":\"1\",\"a\":\"2\"\x7d," ++
      "\"sqlCode\":\"ZZ999\",\"type\":\"error\"\x7d"
    let unknownText := utf8Bytes "\x7b\"type\":\"telemetry\",\"data\":[\x7b\x7d]\x7d"
    let error (headers : Headers) : ServerMessage :=
      .error { headers, sqlCode := some (.ofCode "ZZ999") }
    (parse Redirect.read? redirectText = some redirect ∧
      parse Redirect.read? (unparse Redirect.json redirect) = some redirect) ∧
    (parse ResultSet.read? resultText = some result ∧
      parse ResultSet.read? (unparse ResultSet.json result) = some result) ∧
    (parse ServerMessage.read? unknownText = some .unknown ∧
      parse ServerMessage.read? (unparse ServerMessage.json .unknown) = some .unknown) ∧
    parse ServerMessage.read? errorText = some (error [("b", "1"), ("a", "2")]) ∧
      parse ServerMessage.read? (unparse ServerMessage.json (error [("a", "2"), ("b", "1")])) =
        some (error [("a", "2"), ("b", "1")]) := by
  intro redirectText redirect resultText result errorText unknownText error
  have hredirect : parse Redirect.read? redirectText = some redirect := by decide +kernel
  have hresult : parse ResultSet.read? resultText = some result := by decide +kernel
  have hunknown : parse ServerMessage.read? unknownText = some .unknown := by decide +kernel
  have herror : parse ServerMessage.read? errorText = some (error [("b", "1"), ("a", "2")]) := by
    decide +kernel
  obtain ⟨-, hresults, -, hredirects, -, -, -, -, hmessages, hheaders, -⟩ := messages_round_trip
  exact ⟨⟨hredirect, hredirects.parse_unparse hredirect⟩,
    ⟨hresult, hresults.parse_unparse hresult⟩,
    ⟨hunknown, hmessages.parse_unparse hunknown⟩, herror,
    hheaders _ _ _ herror (.error (.swap _ _ []) "" (some (.ofCode "ZZ999")))⟩

end Message

end Tributary
