import FormLetter.Store.Call

/-!
# Tables in memory

Rows stand newest first. Ids are given out in order and never again, and an id that is taken for a
row may be followed by other calls before the row is inserted.
-/

namespace FormLetter

/-- The templates in memory, newest first, and the last id that was given out. Ids are counted
without end; up to `2 ^ 63 - 1` they are numbers of 64 bits. -/
structure TemplateTable where
  lastId : Int
  rows : List Template
  sorted : rows.Pairwise (fun newer older => older.id < newer.id)

namespace TemplateTable

def empty : TemplateTable :=
  ⟨0, [], .nil⟩

/-- Puts a template in its place, over the one with its id. -/
def put (template : Template) : List Template → List Template
  | [] => [template]
  | row :: rows =>
    if row.id < template.id then template :: row :: rows
    else if template.id < row.id then row :: put template rows
    else template :: rows

theorem mem_put {template row : Template} {rows : List Template} (h : row ∈ put template rows) :
    row = template ∨ row ∈ rows := by
  induction rows with
  | nil => exact .inl (List.mem_singleton.mp h)
  | cons head rows ih =>
    rw [put] at h
    split at h
    · exact List.mem_cons.mp h
    · split at h
      · rcases List.mem_cons.mp h with h | h
        · exact .inr (h ▸ List.mem_cons_self)
        · exact (ih h).imp_right (List.mem_cons_of_mem _)
      · exact (List.mem_cons.mp h).imp_right (List.mem_cons_of_mem _)

theorem pairwise_put (template : Template) {rows : List Template}
    (h : rows.Pairwise (fun newer older => older.id < newer.id)) :
    (put template rows).Pairwise (fun newer older => older.id < newer.id) := by
  induction rows with
  | nil => simp [put]
  | cons head rows ih =>
    have hhead := (List.pairwise_cons.mp h).1
    have hrows := (List.pairwise_cons.mp h).2
    rw [put]
    split
    next hlt =>
      refine List.pairwise_cons.mpr ⟨fun row hrow => ?_, h⟩
      rcases List.mem_cons.mp hrow with rfl | hrow
      · exact hlt
      · exact Int.lt_trans (hhead row hrow) hlt
    next hnlt =>
      split
      next hlt =>
        refine List.pairwise_cons.mpr ⟨fun row hrow => ?_, ih hrows⟩
        rcases mem_put hrow with rfl | hrow
        · exact hlt
        · exact hhead row hrow
      next hngt =>
        have heq : template.id = head.id := by omega
        exact List.pairwise_cons.mpr ⟨fun row hrow => heq ▸ hhead row hrow, hrows⟩

/-- Gives out the next id. -/
def takeId (table : TemplateTable) : Int × TemplateTable :=
  (table.lastId + 1, { table with lastId := table.lastId + 1 })

def insert (table : TemplateTable) (template : Template) : TemplateTable where
  lastId := table.lastId
  rows := put template table.rows
  sorted := pairwise_put template table.sorted

/-- Takes an id and then inserts the template under it. -/
def create (table : TemplateTable) (new : NewTemplate) (now : Timestamp) :
    Template × TemplateTable :=
  let (id, table) := table.takeId
  (new.toTemplate id now, table.insert (new.toTemplate id now))

def find? (table : TemplateTable) (id : Int) : Option Template :=
  table.rows.find? fun row => row.id == id

def update (table : TemplateTable) (id : Int) (patch : TemplatePatch) (now : Timestamp) :
    Option Template × TemplateTable :=
  match table.find? id with
  | none => (none, table)
  | some template => (some (patch.apply now template), table.insert (patch.apply now template))

def delete (table : TemplateTable) (id : Int) : Bool × TemplateTable :=
  ((table.find? id).isSome,
    { lastId := table.lastId
      rows := table.rows.filter fun row => row.id != id
      sorted := table.sorted.filter _ })

def total (table : TemplateTable) : Int64 :=
  Int64.ofNat table.rows.length

/-- The rows after the first ones, up to the limit; a number below zero counts as zero. -/
def list (table : TemplateTable) (limit offset : Int64) : List Template :=
  (table.rows.drop offset.toInt.toNat).take limit.toInt.toNat

end TemplateTable

/-- The accounts in memory, newest first, and the last id that was given out. -/
structure AccountTable where
  lastId : Int
  rows : List Account

namespace AccountTable

def empty : AccountTable :=
  ⟨0, []⟩

def find? (table : AccountTable) (username : String) : Option Account :=
  table.rows.find? fun row => row.username == username

/-- A username that is taken is refused before an id is taken. -/
def create (table : AccountTable) (new : NewAccount) (now : Timestamp) :
    Except StoreError Account × AccountTable :=
  match table.find? new.username with
  | some _ => (.error (.usernameTaken new.username), table)
  | none =>
    let account := new.toAccount (table.lastId + 1) now
    (.ok account, { lastId := table.lastId + 1, rows := account :: table.rows })

end AccountTable

structure Memory where
  templates : TemplateTable
  accounts : AccountTable

namespace Memory

def empty : Memory :=
  ⟨.empty, .empty⟩

def perform (now : Timestamp) (memory : Memory) :
    (request : StoreCall) → Except StoreError request.Reply × Memory
  | .createTemplate new =>
    let (template, templates) := memory.templates.create new now
    (.ok template, { memory with templates := templates })
  | .findTemplate id => (.ok (memory.templates.find? id), memory)
  | .updateTemplate id patch =>
    let (template, templates) := memory.templates.update id patch now
    (.ok template, { memory with templates := templates })
  | .deleteTemplate id =>
    let (found, templates) := memory.templates.delete id
    (.ok found, { memory with templates := templates })
  | .listTemplates limit offset =>
    (.ok (memory.templates.list limit offset, memory.templates.total), memory)
  | .ping => (.ok (), memory)
  | .createAccount new =>
    let (account, accounts) := memory.accounts.create new now
    (account, { memory with accounts := accounts })
  | .findAccount username => (.ok (memory.accounts.find? username), memory)

end Memory

/-- Makes the calls of a program to the stores in memory, one after the other. -/
def Program.run {α : Type} (now : Timestamp) : Program α → Memory → α × Memory
  | .done result, memory => (result, memory)
  | .call request next, memory =>
    let (reply, memory) := memory.perform now request
    (next reply).run now memory

theorem Program.run_bind {α β : Type} (now : Timestamp) (program : Program α) (f : α → Program β)
    (memory : Memory) :
    (program.bind f).run now memory =
      (f (program.run now memory).1).run now (program.run now memory).2 := by
  induction program generalizing memory with
  | done result => rfl
  | call request next ih => exact ih _ _

/-- Stores in memory, or stores that fail every call. -/
inductive Store where
  | memory (contents : Memory)
  | refusing (errors : Nat → DatabaseError)

def Store.run {α : Type} (now : Timestamp) (store : Store) (program : Program α) : α × Store :=
  match store with
  | .memory contents =>
    let (result, contents) := program.run now contents
    (result, .memory contents)
  | .refusing errors => (program.runRefused errors 0, .refusing errors)

end FormLetter
