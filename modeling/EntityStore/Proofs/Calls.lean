import EntityStore.Proofs.Tables

/-!
# Calls in turn

Calls that are made one after the other lead from session to session (`Task.inTurn`). Of the calls
that concern one thing the last decides whether the thing stands (`Stands`), and the place of the
first call since which it has stood all the time is `StandsSince`. Both are told call by call.
-/

namespace EntityStore

variable {γ : Type}

/-- The session after calls that are made one after the other, whatever becomes of each. -/
def Task.inTurn {α : Type} (perform : γ → Task α) (db : Database) (calls : List γ) (s : Session) :
    Session :=
  calls.foldl (fun s call => (perform call db s).2) s

theorem Task.inTurn_append {α : Type} (perform : γ → Task α) (db : Database) (calls : List γ)
    (call : γ) (s : Session) :
    Task.inTurn perform db (calls ++ [call]) s =
      (perform call db (Task.inTurn perform db calls s)).2 :=
  List.foldl_append

/-- Those of the calls in turn that answer that they have done something. -/
def Task.successes (perform : γ → Task Bool) (db : Database) : List γ → Session → List γ
  | [], _ => []
  | call :: rest, s =>
    let (answer, s') := perform call db s
    if answer.toOption == some true then call :: Task.successes perform db rest s'
    else Task.successes perform db rest s'

theorem Task.successes_append (perform : γ → Task Bool) (db : Database) (calls : List γ) (call : γ)
    (s : Session) :
    Task.successes perform db (calls ++ [call]) s = Task.successes perform db calls s ++
      if (perform call db (Task.inTurn perform db calls s)).1.toOption == some true then [call]
      else [] := by
  induction calls generalizing s with
  | nil => rfl
  | cons first rest ih =>
    simp only [List.cons_append, successes, ih]
    split
    · rfl
    · rfl

/-- The last of the calls that concern a thing is one that sets it. -/
def Stands (concerns sets : γ → Bool) (calls : List γ) : Bool :=
  ((calls.filter concerns).getLast?).any sets

/-- The call at the place sets the thing, no later call takes it away, and whenever it was set
before, it was taken away before the place. -/
structure StandsSince (concerns sets : γ → Bool) (calls : List γ) (place : Nat) : Prop where
  set : ∃ call, calls[place]? = some call ∧ concerns call = true ∧ sets call = true
  kept : ∀ later call, place < later → calls[later]? = some call → concerns call = true →
    sets call = true
  first : ∀ earlier call, earlier < place → calls[earlier]? = some call → concerns call = true →
    sets call = true → ∃ between other, earlier < between ∧ between < place ∧
      calls[between]? = some other ∧ concerns other = true ∧ sets other = false

variable {concerns sets : γ → Bool} {calls : List γ}

/-- One call more decides when it concerns the thing. -/
theorem stands_append (call : γ) : Stands concerns sets (calls ++ [call]) =
    if concerns call then sets call else Stands concerns sets calls := by
  unfold Stands
  rw [List.filter_append]
  by_cases h : concerns call = true
  · rw [if_pos h, List.filter_cons_of_pos h, List.filter_nil, List.getLast?_concat, Option.any_some]
  · rw [if_neg h, List.filter_cons_of_neg h, List.filter_nil, List.append_nil]

/-- What no call sets does not stand. -/
theorem stands_eq_false (unset : ∀ call ∈ calls, concerns call = true → sets call = false) :
    Stands concerns sets calls = false := by
  unfold Stands
  cases last : (calls.filter concerns).getLast? with
  | none => rfl
  | some call =>
    obtain ⟨mem, about⟩ := List.mem_filter.1 (List.mem_of_getLast? last)
    exact unset call mem about

/-- A thing that does not stand was taken away after every call that set it. -/
theorem exists_taken (fallen : Stands concerns sets calls = false) {place : Nat} {call : γ}
    (there : calls[place]? = some call) (about : concerns call = true) (set : sets call = true) :
    ∃ later other, place < later ∧ calls[later]? = some other ∧ concerns other = true ∧
      sets other = false := by
  induction calls using List.reverseRecOn with
  | nil => cases there
  | append_singleton before last ih =>
    rw [stands_append] at fallen
    have bound : place < (before ++ [last]).length := (List.getElem?_eq_some_iff.1 there).1
    rw [List.length_append, List.length_singleton] at bound
    by_cases own : place = before.length
    · subst own
      rw [List.getElem?_concat_length] at there
      cases there
      rw [if_pos about, set] at fallen
      cases fallen
    · have inside : place < before.length := by omega
      rw [List.getElem?_append_left inside] at there
      by_cases h : concerns last = true
      · rw [if_pos h] at fallen
        exact ⟨before.length, last, inside, List.getElem?_concat_length, h, fallen⟩
      · rw [if_neg h] at fallen
        obtain ⟨later, other, after, found, aboutToo, taken⟩ := ih fallen there
        refine ⟨later, other, after, ?_, aboutToo, taken⟩
        rw [List.getElem?_append_left (List.getElem?_eq_some_iff.1 found).1, found]

namespace StandsSince

theorem bound {place : Nat} (since : StandsSince concerns sets calls place) :
    place < calls.length := by
  obtain ⟨call, there, -⟩ := since.set
  exact (List.getElem?_eq_some_iff.1 there).1

/-- What has stood since a place stands still after a call that does not take it away. -/
theorem append {place : Nat} (since : StandsSince concerns sets calls place) {call : γ}
    (keeps : concerns call = true → sets call = true) :
    StandsSince concerns sets (calls ++ [call]) place := by
  have bound := since.bound
  refine ⟨?_, ?_, ?_⟩
  · obtain ⟨setter, there, h⟩ := since.set
    exact ⟨setter, by rw [List.getElem?_append_left bound, there], h⟩
  · intro later other after there about
    by_cases inside : later < calls.length
    · rw [List.getElem?_append_left inside] at there
      exact since.kept later other after there about
    · have reached : later < (calls ++ [call]).length := (List.getElem?_eq_some_iff.1 there).1
      rw [List.length_append, List.length_singleton] at reached
      obtain rfl : later = calls.length := by omega
      rw [List.getElem?_concat_length] at there
      cases there
      exact keeps about
  · intro earlier other before there about set
    rw [List.getElem?_append_left (by omega)] at there
    obtain ⟨between, taker, h, h', found, rest⟩ := since.first earlier other before there about set
    exact ⟨between, taker, h, h', by rw [List.getElem?_append_left (by omega), found], rest⟩

/-- What does not stand and is set by a call has stood since that call. -/
theorem new (fallen : Stands concerns sets calls = false) {call : γ} (about : concerns call = true)
    (set : sets call = true) : StandsSince concerns sets (calls ++ [call]) calls.length := by
  refine ⟨⟨call, List.getElem?_concat_length, about, set⟩, ?_, ?_⟩
  · intro later other after there
    have reached : later < (calls ++ [call]).length := (List.getElem?_eq_some_iff.1 there).1
    rw [List.length_append, List.length_singleton] at reached
    omega
  · intro earlier other before there aboutToo setToo
    rw [List.getElem?_append_left before] at there
    obtain ⟨later, taker, after, found, rest⟩ := exists_taken fallen there aboutToo setToo
    have inside := (List.getElem?_eq_some_iff.1 found).1
    exact ⟨later, taker, after, inside, by rw [List.getElem?_append_left inside, found], rest⟩

/-- Things that have stood since places in a list stand still when one more is set, which has stood
since the last place. -/
theorem concat {ι : Type} [DecidableEq ι] (about : ι → γ → Bool) {items : List ι} {item : ι}
    {call : γ} (since : ∃ place : ι → Nat,
      (∀ i ∈ items, StandsSince (about i) sets calls (place i)) ∧
        items.Pairwise fun i j => place i < place j)
    (other : item ∉ items) (fallen : Stands (about item) sets calls = false)
    (concerned : about item call = true) (set : sets call = true) :
    ∃ place : ι → Nat,
      (∀ i ∈ items ++ [item], StandsSince (about i) sets (calls ++ [call]) (place i)) ∧
        (items ++ [item]).Pairwise fun i j => place i < place j := by
  obtain ⟨place, since, ascend⟩ := since
  let place' (i : ι) : Nat := if i = item then calls.length else place i
  have own : place' item = calls.length := if_pos rfl
  have kept : ∀ i ∈ items, place' i = place i := by
    intro i mem
    refine if_neg ?_
    rintro rfl
    exact other mem
  refine ⟨place', List.forall_mem_append.2 ⟨fun i mem => ?_, fun i mem => ?_⟩, ?_⟩
  · rw [kept i mem]
    exact (since i mem).append fun _ => set
  · rw [List.mem_singleton.1 mem, own]
    exact .new fallen concerned set
  · refine List.pairwise_append.2 ⟨?_, List.pairwise_singleton _ _, ?_⟩
    · refine ascend.imp_of_mem fun {i j} mem mem' before => ?_
      rwa [kept i mem, kept j mem']
    · intro i mem j added
      rw [List.mem_singleton.1 added, kept i mem, own]
      exact (since i mem).bound

end StandsSince

/-! ### A database without anything in it -/

def Database.plain : Database :=
  { registry := ⟨[]⟩ }

def Session.start : Session :=
  { clock := ⟨0⟩ }

theorem Session.start_shows (table : String) :
    Session.start.engine.Shows Database.plain.handle table [] 0 :=
  ⟨⟨{}, rfl, rfl⟩, rfl⟩

/-- An instance that is saved under a key. -/
def Instance.saved (m : Model) (id : Int) : Instance :=
  { model := m, attributes := Row.empty.insert "id" (.int id), stored := true }

theorem Instance.id?_saved {m : Model} {id : Int} (key : m.primaryKey = "id")
    (fits : fitsInt64 id = true) : (Instance.saved m id).id? = some id := by
  unfold Instance.id? Instance.get?
  change ((Row.empty.insert "id" (.int id)).get? m.primaryKey).bind Value.asInt64? = _
  rw [key, Row.get?_insert_self]
  simp [Value.int, Value.asInt64?, fits]

theorem Instance.owner?_saved {m : Model} {id : Int} (key : m.primaryKey = "id")
    (fits : fitsInt64 id = true) : (Instance.saved m id).owner? = some ⟨m.table, id⟩ := by
  rw [Instance.owner?, Instance.id?_saved key fits]
  rfl

end EntityStore
