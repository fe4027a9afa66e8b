import EntityStore.Association.Basic

/-!
# Comments

Comments on instances. A new comment is pending until it is approved or rejected.
-/

namespace EntityStore

inductive CommentStatus where
  | pending
  | approved
  | rejected
deriving DecidableEq, Repr

structure Comment where
  id : Int := 0
  ownerId : Int := 0
  ownerType : String := ""
  title : String := ""
  body : String := ""
  status : CommentStatus := .pending
  createdAt : Option String := none
  updatedAt : Option String := none
deriving DecidableEq, Repr

namespace CommentStatus

def text : CommentStatus → String
  | .pending => "pending"
  | .approved => "approved"
  | .rejected => "rejected"

def read : Reader CommentStatus :=
  Reader.variant [("pending", .pending), ("approved", .approved), ("rejected", .rejected)]

end CommentStatus

namespace Comment

def read : Reader Comment :=
  Reader.readRecord "Comment"
    [.required "id" Reader.int64 fun c n => { c with id := n },
      .required "commentables_id" Reader.int64 fun c n => { c with ownerId := n },
      .required "commentables_type" Reader.text fun c s => { c with ownerType := s },
      .required "title" Reader.text fun c s => { c with title := s },
      .required "body" Reader.text fun c s => { c with body := s },
      .required "status" CommentStatus.read fun c s => { c with status := s },
      .optional "created_at" Reader.text fun c s => { c with createdAt := s },
      .optional "updated_at" Reader.text fun c s => { c with updatedAt := s }] {}

def toValue (c : Comment) : Value :=
  .object [("body", .text c.body), ("commentables_id", .int c.ownerId),
    ("commentables_type", .text c.ownerType), ("created_at", .optionalText c.createdAt),
    ("id", .int c.id), ("status", .text c.status.text), ("title", .text c.title),
    ("updated_at", .optionalText c.updatedAt)]

end Comment

/-- The comments on one owner. -/
structure Comments where
  rows : OwnedRows

namespace Comments

/-- The comments on an instance of a commentable entity. -/
def ofInstance (owner : Instance) : Except Error Comments := do
  owner.model.requireTrait owner.model.traits.commentable "commentable"
  return ⟨← OwnedRows.ofInstance owner "comments" "commentables_id" "commentables_type"⟩

def all (comments : Comments) : Task (List Comment) :=
  OwnedRows.fetch comments.rows.selection Comment.read

def count (comments : Comments) : Task Int :=
  OwnedRows.countOf comments.rows.selection

/-- Adds a pending comment. -/
def add (comments : Comments) (title body : String) : Task Comment := do
  let row ← comments.rows.insert
    (Row.ofFields [("title", .text title), ("body", .text body),
      ("status", .text CommentStatus.pending.text)])
  Work.ofExcept (row.decode Comment.read)

/-- The comments of a status. -/
def withStatus (comments : Comments) (status : CommentStatus) : Task (List Comment) :=
  OwnedRows.fetch (comments.rows.selection.filter (.compare "status" .eq (.text status.text)))
    Comment.read

/-- Sets the status of a comment on the owner; false when there is no such comment. -/
def setStatus (comments : Comments) (id : Int) (status : CommentStatus) : Task Bool := do
  return 0 < (← comments.rows.update id (Row.empty.insert "status" (.text status.text)))

end Comments

end EntityStore
