import EntityStore.Query.Run

/-!
# Pages and chunks

A page is a window of the rows in the order of their primary keys, with the count of all rows and
the key at which the next page begins. `Query.chunk` visits all rows window by window.
-/

namespace EntityStore

/-- The size and the number of a page, counted from one. -/
structure PageOptions where
  limit : Option Nat := none
  page : Option Nat := none
deriving DecidableEq, Repr

/-- A page. `nextCursor` is the primary key of the first row of the next page. -/
structure Page where
  rows : List Instance
  totalRecords : Int
  page : Nat
  totalPages : Int
  nextCursor : Option Int

def PageOptions.read : Reader PageOptions :=
  Reader.readRecord "PageOptions"
    [.nullable "limit" Reader.count fun o n => { o with limit := n },
      .nullable "page" Reader.count fun o n => { o with page := n }] {}

/-- The page as data. -/
def Page.toValue (p : Page) : Value :=
  .object
    [("data", .list (p.rows.map Instance.toValue)),
      ("next_cursor", (p.nextCursor.map Value.int).getD .null),
      ("paging", .object [("page", .int p.page), ("total_pages", .int p.totalPages),
        ("total_records", .int p.totalRecords)])]

namespace Query

/-- The window of a query in the order of the primary keys. -/
def window (q : Query) (offset size : Nat) : Query :=
  { q.inKeyOrder with offset := some offset, limit := some size }

/-- A page of the rows. One row more than the page holds is fetched to find where the next page
begins. -/
def paginate (q : Query) (options : PageOptions) : Task Page := do
  let db ← Work.database
  let limit := options.limit.getD db.config.defaultPageSize
  let page := options.page.getD 1
  if limit = 0 || page = 0 then throw (.pageBounds limit page)
  let total ← { q with limit := none, offset := none }.count
  let rows ← (q.window ((page - 1) * limit) (limit + 1)).get
  return {
    rows := rows.take limit
    totalRecords := total
    page
    totalPages := (total + limit - 1).tdiv limit
    nextCursor := (rows[limit]?).bind Instance.id? }

variable {σ : Type}

/-- Visits window after window from an offset, until a window is not full, or a visit or a fetch
fails; `steps` bounds the number of windows. Answers what the visits made of the state, and how it
ended. -/
def chunkFrom (q : Query) (size : Nat) (visit : σ → List Instance → σ × Except Error Unit) :
    Nat → Nat → σ → Task (σ × Except Error Unit)
  | 0, _, state => return (state, .ok ())
  | steps + 1, offset, state => do
    match ← (q.window offset size).get.outcome with
    | .error e => return (state, .error e)
    | .ok rows =>
      let (state, ended) := if rows.isEmpty then (state, .ok ()) else visit state rows
      match ended with
      | .error e => return (state, .error e)
      | .ok () =>
        if rows.length < size then return (state, .ok ())
        else chunkFrom q size visit steps (offset + size) state

/-- The number of rows that the query would find without a window, in the order of the primary
keys. -/
def height (q : Query) : Task Nat :=
  fun db s =>
    let listing := { q.inKeyOrder with limit := none, offset := none }
    (.ok ((s.view db.handle).select listing.statement).length, s)

/-- Visits all rows in the order of their primary keys, `size` at a time. The rows do not change
meanwhile, so that one window more than there are rows is enough. -/
def chunk (q : Query) (size : Nat) (visit : σ → List Instance → σ × Except Error Unit) (state : σ) :
    Task (σ × Except Error Unit) := do
  if size = 0 then return (state, .error .emptyChunks)
  q.chunkFrom size visit ((← q.height) + 1) 0 state

end Query

end EntityStore
