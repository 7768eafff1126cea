import Tributary.Cursor.Paged
import Tributary.Cursor.Streamed

/-!
# Cursors

A cursor goes forward over the rows of a result, whether it is bounded or a stream.
-/

namespace Tributary

inductive Cursor where
  | paged (rows : PagedCursor)
  | streamed (rows : StreamCursor)

namespace Cursor

def describe : Cursor → List Column
  | .paged rows => rows.describe
  | .streamed rows => rows.describe

def width (r : Cursor) : Nat := r.describe.length

def column? (r : Cursor) (index : Nat) : Option Column := r.describe[index]?

/-- The outcome of fetching, for a cursor in general. -/
def fetched (wrap : κ → Cursor) (f : Fetched κ) : Fetched Cursor :=
  ⟨f.more, f.slots, wrap f.cursor⟩

def next (r : Cursor) (dest : List Value) (c : Conversation) : Fetched Cursor × Conversation :=
  match r with
  | .paged rows => let (f, c) := rows.next dest c; (fetched .paged f, c)
  | .streamed rows => let (f, c) := rows.next dest c; (fetched .streamed f, c)

/-- Fetches the next row, if there is one. -/
def nextRow (r : Cursor) (c : Conversation) :
    (Except Error (Option (List Value)) × Cursor) × Conversation :=
  let (f, c) := r.next (List.replicate r.width .null) c
  ((f.more.map fun more => if more then some f.slots else none, f.cursor), c)

/-- Rows fetched one after the other, until they end or one cannot be fetched. -/
structure Drained where
  rows : List (List Value)
  ended : Except Error Bool
  cursor : Cursor

/-- Fetches up to `count` rows. -/
def drain (count : Nat) (r : Cursor) (c : Conversation) : Drained × Conversation :=
  match count with
  | 0 => (⟨[], .ok false, r⟩, c)
  | count + 1 =>
    match r.nextRow c with
    | ((.ok (some row), r), c) =>
      let (d, c) := drain count r c
      ({ d with rows := row :: d.rows }, c)
    | ((.ok none, r), c) => (⟨[], .ok true, r⟩, c)
    | ((.error e, r), c) => (⟨[], .error e, r⟩, c)

def close : Cursor → Cursor
  | .paged rows => .paged rows.close
  | .streamed rows => .streamed rows.close

def shown : Cursor → String
  | .paged rows => Text.wrapped "Partitioned" rows.shown
  | .streamed rows => Text.wrapped "Streaming" rows.shown

end Cursor

end Tributary
