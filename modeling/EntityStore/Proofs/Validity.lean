import EntityStore.Proofs.Rules
import EntityStore.Proofs.Terminals
import EntityStore.Proofs.Triples

/-!
# Validated tables stay valid

A new row is checked whole, a change only for what it sets. Where the settings ask for the checks,
both together keep every stored row of an entity to all rules: no operation that checks, and no
failure of one, leaves a row in the table that breaks a rule (`Operation.holds_perform`), and so no
run of them does. Main result: `Operation.valid_run`.
-/

namespace EntityStore

namespace Model

/-- The columns that the writes of an entity set by themselves have no rules. -/
structure IgnoresMaintained (m : Model) : Prop where
  key : m.validator.Ignores m.primaryKey
  identifier : m.traits.uuid = true → m.validator.Ignores "uuid"
  creation : m.traits.timestamps = true → m.validator.Ignores "created_at"
  change : m.traits.timestamps = true → m.validator.Ignores "updated_at"

/-- Every stored row of the entity keeps all rules. -/
def Valid (m : Model) (store : Store) : Prop :=
  store.Every m.table m.validator.Holds

end Model

theorem Schema.Compiles.ignoresMaintained {s : Schema} {resolver : RelationResolver} {m : Model}
    (h : s.Compiles resolver m) : m.IgnoresMaintained where
  key := by
    rw [h.primaryKey]
    exact h.ignores List.mem_cons_self
  identifier uuid := by
    rw [h.traits] at uuid
    have listed : ⟨"uuid", .uuid, true, .uuid⟩ ∈ s.maintained := by
      simp [maintained, columnIf, uuid]
    exact h.ignores listed
  creation stamps := by
    rw [h.traits] at stamps
    have listed : ⟨"created_at", .timestamp, true, .timestamp⟩ ∈ s.maintained := by
      simp [maintained, columnIf, stamps]
    exact h.ignores listed
  change stamps := by
    rw [h.traits] at stamps
    have listed : ⟨"updated_at", .timestamp, true, .timestamp⟩ ∈ s.maintained := by
      simp [maintained, columnIf, stamps]
    exact h.ignores listed

/-- What every step of a fold keeps, the whole fold keeps. -/
theorem Except.of_foldlM {ε α β : Type} {f : β → α → Except ε β} {I : β → Prop}
    (step : ∀ b a b', I b → f b a = .ok b' → I b') {as : List α} {b b' : β}
    (folded : as.foldlM f b = .ok b') (start : I b) : I b' := by
  induction as generalizing b with
  | nil =>
    cases folded
    exact start
  | cons a rest ih =>
    rw [List.foldlM_cons] at folded
    cases ran : f b a with
    | error e => rw [ran] at folded; cases folded
    | ok next =>
      rw [ran] at folded
      exact ih folded (step b a next start ran)

/-! ### Single writes -/

namespace Model

variable {m : Model} {db : Database}

/-- New rows that keep the rules and changes that they admit leave a valid table valid: the rules say
nothing about the columns that writes set by themselves. -/
theorem IgnoresMaintained.guards (apart : m.IgnoresMaintained) :
    m.Guards m.Valid m.validator.Holds m.validator.Admits where
  identifier uuid _ v holds := holds.insert (apart.identifier uuid) v
  creation stamps _ v holds := holds.insertNew (apart.creation stamps) v
  change stamps _ v holds := holds.insertNew (apart.change stamps) v
  stamp stamps _ v admitted := admitted.insert (apart.change stamps) v
  inserts _ hold := Store.maintains_insert (fun _ _ holds => holds.insert apart.key _) hold
  updates _ _ admitted := Store.maintains_update fun _ holds => holds.merge admitted

theorem Checked.holds (checks : db.config.validateOnWrite = true) {row : Row}
    (checked : m.Checked db .create true row) : m.validator.Holds row := by
  apply Validator.validate_create_iff.1
  apply checked
  rw [checks]
  rfl

theorem Checked.admits (checks : db.config.validateOnWrite = true) {values : Row}
    (checked : m.Checked db .update true values) : m.validator.Admits values := by
  apply Validator.validate_update_iff.1
  apply checked
  rw [checks]
  rfl

/-- A query for the rows that have some values is one of the entity and loads nothing with them. -/
theorem having_eq_ok {values : Row} {q : Query} (built : m.having values = .ok q) :
    q.model = m ∧ q.loads = [] := by
  unfold having at built
  refine Except.of_foldlM (I := fun (q : Query) => q.model = m ∧ q.loads = []) ?_ built ⟨rfl, rfl⟩
  rintro q ⟨name, value⟩ q' built extended
  simp only at extended
  split at extended
  · cases extended
  · cases extended
    split
    · exact built
    · exact built

end Model

namespace Query

variable {q : Query} {db : Database} {P : Store → Prop}

/-- The first row of a query that loads no relations is one of its entity. -/
theorem keeps_first (unloaded : q.loads = []) :
    q.first.Keeps db P (fun found => ∀ i ∈ found, i.model = q.model) := by
  have fetched : ({ q with limit := some 1 } : Query).get.Keeps db P
      (fun rows => ∀ i ∈ rows, i.model = q.model) := by
    unfold get fetch
    refine Task.Keeps.bind (Q := fun rows => ∀ i ∈ rows, i.model = q.model) ?_ ?_
    · refine .bind (.select _) fun rows _ => .pure ?_
      intro i mem
      obtain ⟨row, -, rfl⟩ := List.mem_map.1 mem
      rfl
    · intro rows own
      simp only [unloaded]
      exact .ite (fun _ => .pure own) fun _ => .pure own
  unfold first
  refine fetched.bind fun rows own => .pure ?_
  intro i mem
  exact own i (List.mem_of_head? mem)

end Query

/-! ### Operations -/

/-- What is done with the rows of an entity under the checks. -/
inductive Operation where
  | create (values : Row)
  | createMany (rows : List Row)
  | firstOrCreate (sought : Row) (values : Value)
  | updateOrCreate (sought values : Row)
  | update (i : Instance) (values : Row)
  | save (i : Instance)
  | updateAll (q : Query) (values : Row)

namespace Operation

/-- The instance or the query of the operation is one of the entity; an instance may be new or
loaded, and anything may have been set in it. -/
def On (m : Model) : Operation → Prop
  | .update i _ | .save i => i.model = m
  | .updateAll q _ => q.model = m
  | _ => True

/-- The session after the operation, also after one that fails. -/
def perform (m : Model) (db : Database) (s : Session) : Operation → Session
  | .create values => (m.create values db s).2
  | .createMany rows => (m.createMany rows db s).2
  | .firstOrCreate sought values => (m.firstOrCreate sought values db s).2
  | .updateOrCreate sought values => (m.updateOrCreate sought values db s).2
  | .update i values => (i.update values db s).2
  | .save i => (i.save db s).2
  | .updateAll q values => (q.update values db s).2

/-- The session after a run of operations, one after the other. -/
def run (m : Model) (db : Database) (s : Session) (operations : List Operation) : Session :=
  operations.foldl (perform m db) s

end Operation

section Checked

variable {m : Model} {db : Database} (apart : m.IgnoresMaintained)
  (checks : db.config.validateOnWrite = true)
include apart checks

theorem Model.keeps_create (values : Row) :
    (m.create values).Keeps db m.Valid (fun _ => True) :=
  keeps_insertOne apart.guards (fun _ => Checked.holds checks) _

theorem Instance.keeps_update {i : Instance} (own : i.model = m) (values : Row) :
    (i.update values).Keeps db m.Valid (fun _ => True) :=
  keeps_writeValues apart.guards own (Model.Checked.admits checks)

theorem Model.keeps_firstOrCreate (sought : Row) (values : Value) :
    (m.firstOrCreate sought values).Keeps db m.Valid (fun _ => True) := by
  unfold firstOrCreate
  refine .bind (.ofExcept _) fun q built => ?_
  refine .bind (Query.keeps_first (having_eq_ok built).2) fun found _ => ?_
  cases found with
  | some i => exact .pure trivial
  | none => exact .bind (.ofExcept _) fun _ _ => keeps_create apart checks _

theorem Model.keeps_updateOrCreate (sought values : Row) :
    (m.updateOrCreate sought values).Keeps db m.Valid (fun _ => True) := by
  unfold updateOrCreate
  refine .bind (.ofExcept _) fun q built => ?_
  obtain ⟨model, unloaded⟩ := having_eq_ok built
  refine .bind (Query.keeps_first unloaded) fun found own => ?_
  cases found with
  | some i => exact Instance.keeps_update apart checks ((own i rfl).trans model) values
  | none => exact keeps_create apart checks _

namespace Operation

/-- No operation leaves a row that breaks a rule where there was none, whether it fails or not. -/
theorem holds_perform {s : Session} (held : s.Holds db.handle m.Valid) {operation : Operation}
    (own : operation.On m) : (operation.perform m db s).Holds db.handle m.Valid := by
  cases operation with
  | create values => exact (Model.keeps_create apart checks values s held).1
  | createMany rows =>
    exact (Model.keeps_insertRows apart.guards (fun _ => Model.Checked.holds checks) _ s held).1
  | firstOrCreate sought values =>
    exact (Model.keeps_firstOrCreate apart checks sought values s held).1
  | updateOrCreate sought values =>
    exact (Model.keeps_updateOrCreate apart checks sought values s held).1
  | update i values => exact (Instance.keeps_update apart checks own values s held).1
  | save i =>
    have saved := Instance.keeps_save apart.guards own (fun _ _ => Model.Checked.holds checks)
      fun _ => Model.Checked.admits checks
    exact (saved s held).1
  | updateAll q values =>
    exact (Query.keeps_setAll apart.guards own (Model.Checked.admits checks) s held).1

theorem holds_run {operations : List Operation} (own : ∀ operation ∈ operations, operation.On m)
    {s : Session} (held : s.Holds db.handle m.Valid) :
    (run m db s operations).Holds db.handle m.Valid := by
  unfold run
  induction operations generalizing s with
  | nil => exact held
  | cons operation rest ih =>
    rw [List.foldl_cons]
    apply ih fun other mem => own other (List.mem_cons_of_mem _ mem)
    exact holds_perform apart checks held (own operation List.mem_cons_self)

end Operation

end Checked

namespace Operation

/-- **Validated tables stay valid.** From a handle on which the table of a compiled entity is empty,
any run of operations that check their rows, failing ones among them, leaves only rows that pass the
check of a new row, and that keep the rule of every declared attribute. -/
theorem valid_run {schema : Schema} {resolver : RelationResolver} {m : Model}
    (compiled : schema.compile resolver = .ok m) {db : Database}
    (checks : db.config.validateOnWrite = true) {s : Session} {store : Store}
    (opened : s.engine.storeOf db.handle = .ok store) (empty : store.rows m.table = [])
    (operations : List Operation) (own : ∀ operation ∈ operations, operation.On m) :
    ∃ final, (run m db s operations).engine.storeOf db.handle = .ok final ∧
      ∀ row ∈ final.rows m.table,
        m.validator.validate row .create = .ok () ∧ schema.Satisfied row := by
  have compiles := Schema.compile_eq_ok compiled
  have start : s.Holds db.handle m.Valid := by
    refine ⟨store, opened, ?_⟩
    intro row mem
    rw [empty] at mem
    cases mem
  obtain ⟨final, reached, valid⟩ := holds_run compiles.ignoresMaintained checks own start
  refine ⟨final, reached, ?_⟩
  intro row mem
  have holds := valid row mem
  exact ⟨Validator.validate_create_iff.2 holds, compiles.satisfied holds⟩

/-- Members have an address, and may have a role and an age. -/
def members : Schema :=
  { name := "Member", table := some "members"
    attributes :=
      [("address", { fillable := true, nullable := false
                     validation := some { required := true, pattern := some "@" } }),
       ("role", { type := .enum, fillable := true, values := ["guest", "admin"] }),
       ("age", { type := .integer, validation := some { min := some (.ofInt 0) } })]
    traits := { uuid := true } }

/-- The entity of the members. -/
def member : Model :=
  match members.compile ⟨[], 10⟩ with
  | .ok m => m
  | .error _ => .bare "Member" "members" [] {}

/-- A member is created and another one saved; a member without an address, one whose address is taken
away and a bulk change to an unknown role are refused; then all become admins. -/
def changes : List Operation :=
  [.create (.ofFields [("address", .text "a@x"), ("role", .text "guest")]),
    .create (.ofFields [("role", .text "guest")]),
    .save { model := member, attributes := .ofFields [("address", .text "b@x"), ("age", .int 30)] },
    .save ((Instance.ofRow member (.ofFields [("id", .int 2)])).set "address" .null),
    .updateAll member.query (.ofFields [("role", .text "root")]),
    .updateOrCreate (.ofFields [("address", .text "a@x")]) (.ofFields [("role", .null)]),
    .updateAll member.query (.ofFields [("role", .text "admin")])]

/-- Two rows are left, and both are valid. -/
theorem valid_run_members :
    ∃ final, (run member { registry := {} } { clock := ⟨0⟩ } changes).engine.storeOf .shared =
        .ok final ∧
      (final.rows "members").map (fun row => (row.get? "address", row.get? "role")) =
        [(some (.text "a@x"), some (.text "admin")), (some (.text "b@x"), some (.text "admin"))] ∧
      ∀ row ∈ final.rows "members",
        member.validator.validate row .create = .ok () ∧ members.Satisfied row := by
  have compiled : members.compile ⟨[], 10⟩ = .ok member := by rfl
  have own : ∀ operation ∈ changes, operation.On member := by
    simp [changes, On, Model.query, Instance.ofRow, Instance.set]
  obtain ⟨final, reached, valid⟩ :=
    @valid_run members ⟨[], 10⟩ member compiled { registry := {} } rfl { clock := ⟨0⟩ } {} rfl rfl
      changes own
  refine ⟨final, reached, ?_, valid⟩
  obtain rfl := Except.ok.inj reached
  decide +kernel

end Operation

end EntityStore
