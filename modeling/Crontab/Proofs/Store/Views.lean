import Crontab.Proofs.Store.KeyValue
import Crontab.Proofs.Store.Recall
import Crontab.Proofs.Store.Table

/-!
# Views of what media keep

A store sees only some of what its medium keeps for all stores: the entries whose keys satisfy a test.
What it does to everything it does to what it sees, and what others do not see it leaves alone.

* `Medium.SeesOnly` — media whose requests depend on nothing but a view;
* `Medium.SeesOnly.perform` — a request in the view and in the whole state;
* `Medium.perform_preserves` — requests that leave a view alone;
* `Fields.within`, `Table.within` — the entries and the rows whose keys satisfy a test;
* `TextMap.scan_scanPattern` — the search of a server finds the keys with a given start;
* `sees_keyValueMedium`, `sees_tableMedium` — what the stores see.
-/

namespace Crontab

open Time

/-! ## Media and views -/

section media

variable {σ : Type} {medium : Medium σ} {view : σ → σ}

/-- The medium does to the view of a state what it does to the state. -/
structure Medium.SeesOnly (medium : Medium σ) (view : σ → σ) : Prop where
  find : ∀ state id, medium.find (view state) id = medium.find state id
  list : ∀ state, medium.list (view state) = medium.list state
  save : ∀ state task, medium.save (view state) task = (medium.save state task).map view
  remove : ∀ state id, medium.remove (view state) id =
    (medium.remove state id).map fun result => (result.1, view result.2)
  clear : ∀ state, medium.clear (view state) = (medium.clear state).map view

/-- An outcome is settled in the same way where the state is seen as part of another one. -/
theorem Outcome.settle_map {τ : Type} (state : σ) (issuer : Issuer)
    (x : Except StoreError (Reply × σ)) (embed : σ → τ) :
    (Outcome.settle state issuer x).map embed =
      .settle (embed state) issuer (x.map fun result => (result.1, embed result.2)) := by
  cases x <;> rfl

/-- **Views.** A request in the view of a state is the request in the state, viewed. -/
theorem Medium.SeesOnly.perform (h : medium.SeesOnly view) (state : σ) (request : Request)
    (now : Moment) (issuer : Issuer) :
    medium.perform (view state) request now issuer =
      (medium.perform state request now issuer).map view := by
  cases request with
  | add task =>
    cases hCreate : task.create .null now issuer with
    | mk result next =>
      cases result with
      | error cause =>
        rw [Medium.perform_add_error hCreate, Medium.perform_add_error hCreate]
        rfl
      | ok record =>
        rw [Medium.perform_add _ _ hCreate, Medium.perform_add _ _ hCreate, h.save,
          Outcome.settle_map]
        cases medium.save state record <;> rfl
  | get id =>
    rw [Medium.perform, Medium.perform, h.find, Outcome.settle_map]
    cases medium.find state id <;> rfl
  | getAll =>
    rw [Medium.perform, Medium.perform, h.list, Outcome.settle_map]
    cases medium.list state <;> rfl
  | update id updates =>
    rw [Medium.perform, Medium.perform, Outcome.settle_map, Medium.update, Medium.update, h.find]
    cases medium.find state id with
    | error cause => rfl
    | ok found =>
      cases found with
      | none => rfl
      | some existing =>
        dsimp only
        cases existing.update updates now with
        | error cause => rfl
        | ok record =>
          dsimp only
          rw [h.save]
          cases medium.save state record <;> rfl
  | remove id =>
    rw [Medium.perform, Medium.perform, h.remove, Outcome.settle_map]
    cases medium.remove state id <;> rfl
  | clear =>
    rw [Medium.perform, Medium.perform, h.clear, Outcome.settle_map]
    cases medium.clear state <;> rfl

/-- States with the same view answer a request in the same way, and have the same view after it. -/
theorem Medium.SeesOnly.perform_congr (h : medium.SeesOnly view) {state other : σ}
    (hView : view state = view other) (request : Request) (now : Moment) (issuer : Issuer) :
    (medium.perform state request now issuer).reply =
        (medium.perform other request now issuer).reply ∧
      view (medium.perform state request now issuer).state =
        view (medium.perform other request now issuer).state := by
  have hSame := h.perform state request now issuer
  rw [hView, h.perform other request now issuer] at hSame
  exact ⟨(congrArg Outcome.reply hSame).symm, (congrArg Outcome.state hSame).symm⟩

/-- A request leaves a view alone if saving and removing records does, and clearing if it clears. -/
theorem Medium.perform_preserves {state : σ} {request : Request} {now : Moment} {issuer : Issuer}
    (hSave : ∀ task next, medium.save state task = .ok next → view next = view state)
    (hRemove : ∀ id result, medium.remove state id = .ok result → view result.2 = view state)
    (hClear : request = .clear → ∀ next, medium.clear state = .ok next → view next = view state) :
    view (medium.perform state request now issuer).state = view state := by
  have hLeaves := medium.leaves_perform state request now issuer
  generalize (medium.perform state request now issuer).state = next at hLeaves ⊢
  cases hLeaves with
  | same => rfl
  | added hCreate hKept => exact hSave _ _ hKept
  | updated hFind hUpdate hKept => exact hSave _ _ hKept
  | removed hRemoved => exact hRemove _ _ hRemoved
  | cleared hCleared => exact hClear rfl _ hCleared

end media

/-! ## Entries -/

namespace Fields

variable {α : Type} {test : String → Bool} {fields : Fields α} {name : String}

/-- The entries whose names satisfy a test. -/
def within (test : String → Bool) (fields : Fields α) : Fields α :=
  fields.filter fun field => test field.1

/-- The names of the entries that satisfy a test are the names that do. -/
theorem names_within (test : String → Bool) (fields : Fields α) :
    names (within test fields) = (names fields).filter test := by
  rw [names, names, within, List.filter_map]
  rfl

/-- Under a name that satisfies a test, leaving out others changes nothing. -/
theorem get?_within (h : test name = true) (fields : Fields α) :
    get? (within test fields) name = get? fields name := by
  induction fields with
  | nil => rfl
  | cons field fields ih =>
    obtain ⟨key, value⟩ := field
    rw [within, List.filter_cons]
    by_cases hKey : key = name
    · rw [hKey, if_pos h, get?, if_pos rfl, get?, if_pos rfl]
    · rw [get?.eq_def ((key, value) :: fields)]
      simp only [if_neg hKey]
      split
      · rw [get?, if_neg hKey]
        exact ih
      · exact ih

/-- Under a name that does not satisfy a test nothing is left. -/
theorem get?_within_of_not (h : test name = false) (fields : Fields α) :
    get? (within test fields) name = none := by
  cases hGet : get? (within test fields) name with
  | none => rfl
  | some value =>
    have hTest := (List.mem_filter.1 (mem_of_get? hGet)).2
    rw [h] at hTest
    cases hTest

/-- An entry whose name satisfies a test is put among those that do. -/
theorem within_put (h : test name = true) (fields : Fields α) (value : α) :
    within test (put fields name value) = put (within test fields) name value := by
  induction fields with
  | nil => simp [within, put, h]
  | cons field fields ih =>
    obtain ⟨key, old⟩ := field
    rw [within] at ih
    rw [put]
    by_cases hKey : key = name
    · rw [if_pos hKey, within, within, List.filter_cons, List.filter_cons, hKey, if_pos h, if_pos h,
        put, if_pos rfl]
    · rw [if_neg hKey, within, within, List.filter_cons, List.filter_cons, ih]
      split
      · rw [put, if_neg hKey, within]
      · rfl

/-- An entry whose name does not satisfy a test is not put among those that do. -/
theorem within_put_of_not (h : test name = false) (fields : Fields α) (value : α) :
    within test (put fields name value) = within test fields := by
  induction fields with
  | nil => simp [within, put, h]
  | cons field fields ih =>
    obtain ⟨key, old⟩ := field
    rw [put]
    by_cases hKey : key = name
    · rw [if_pos hKey, within, within, List.filter_cons, List.filter_cons, hKey, h,
        if_neg Bool.false_ne_true, if_neg Bool.false_ne_true]
    · rw [within, within] at ih
      rw [if_neg hKey, within, within, List.filter_cons, List.filter_cons, ih]

/-- Erasing a name erases it among the entries that satisfy a test. -/
theorem within_erase (test : String → Bool) (fields : Fields α) (name : String) :
    within test (erase fields name) = erase (within test fields) name := by
  rw [within, erase, within, erase, List.filter_filter, List.filter_filter]
  exact List.filter_congr fun _ _ => Bool.and_comm _ _

/-- Erasing a name that does not satisfy a test does nothing to those that do. -/
theorem within_erase_of_not (h : test name = false) (fields : Fields α) :
    within test (erase fields name) = within test fields := by
  rw [within, within, erase, List.filter_filter]
  refine List.filter_congr fun field _ => ?_
  by_cases hName : field.1 = name
  · rw [hName, h, Bool.false_and]
  · rw [decide_eq_true hName, Bool.and_true]

end Fields

/-! ## Starts -/

/-- Whether a key has a given start. -/
def hasStart (start key : String) : Bool :=
  start.toList.isPrefixOf key.toList

section starts

variable {start other key : String}

/-- A key has a start exactly if it starts with its characters. -/
theorem hasStart_iff : hasStart start key = true ↔ start.toList <+: key.toList :=
  List.isPrefixOf_iff_prefix

/-- The keys of a store have its start. -/
theorem hasStart_storeKey (start : String) (id : Value) :
    hasStart start (storeKey (.text start) id) = true := by
  rw [hasStart_iff, storeKey_text, String.toList_append]
  exact List.prefix_append _ _

/-- Neither of two starts is the start of the other one. -/
def AreApart (start other : String) : Prop :=
  ¬start.toList <+: other.toList ∧ ¬other.toList <+: start.toList

instance (start other : String) : Decidable (AreApart start other) :=
  inferInstanceAs (Decidable (_ ∧ _))

/-- A key has only one of two starts that are apart. -/
theorem AreApart.not_hasStart (h : AreApart start other) (hKey : hasStart start key = true) :
    hasStart other key = false := by
  rw [Bool.eq_false_iff]
  intro hOther
  rcases List.prefix_or_prefix_of_prefix (hasStart_iff.1 hKey) (hasStart_iff.1 hOther) with
    hPrefix | hPrefix
  · exact h.1 hPrefix
  · exact h.2 hPrefix

end starts

/-! ## Texts -/

section texts

variable {start : String} {texts : TextMap} {test : String → Bool}

/-- **Searches on a server.** The pattern for a start finds exactly the keys with that start. -/
theorem TextMap.scan_scanPattern (start : String) (texts : TextMap) :
    TextMap.scan texts (scanPattern start) = (Fields.names texts).filter (hasStart start) := by
  rw [TextMap.scan, patternStart_scanPattern]
  rfl

/-- On a server the keys of a store are those with its start. -/
theorem storeKeys_text (start : String) (texts : TextMap) :
    storeKeys (.text start) texts = .ok ((Fields.names texts).filter (hasStart start)) :=
  congrArg Except.ok (TextMap.scan_scanPattern start texts)

/-- Under a key that satisfies a test, leaving out others changes no text. -/
theorem TextMap.get_within {key : String} (h : test key = true) (texts : TextMap) :
    TextMap.get (Fields.within test texts) key = TextMap.get texts key := by
  rw [TextMap.get, TextMap.get, Fields.get?_within h]

/-- Erasing keys erases them among the texts that satisfy a test. -/
theorem within_foldl_erase (test : String → Bool) (keys : List String) (texts : TextMap) :
    Fields.within test (keys.foldl Fields.erase texts) =
      keys.foldl Fields.erase (Fields.within test texts) := by
  induction keys generalizing texts with
  | nil => rfl
  | cons key keys ih => rw [List.foldl_cons, List.foldl_cons, ih, Fields.within_erase]

/-- Erasing keys that do not satisfy a test does nothing to the texts that do. -/
theorem within_foldl_erase_of_not {keys : List String} (h : ∀ key ∈ keys, test key = false)
    (texts : TextMap) : Fields.within test (keys.foldl Fields.erase texts) = Fields.within test texts := by
  induction keys generalizing texts with
  | nil => rfl
  | cons key keys ih =>
    rw [List.forall_mem_cons] at h
    rw [List.foldl_cons, ih h.2, Fields.within_erase_of_not h.1]

/-- The keys with a start are among the entries with that start. -/
theorem names_within_hasStart (start : String) (texts : TextMap) :
    (Fields.names (Fields.within (hasStart start) texts)).filter (hasStart start) =
      (Fields.names texts).filter (hasStart start) := by
  rw [Fields.names_within, List.filter_filter]
  exact List.filter_congr fun _ _ => Bool.and_self _

/-- A store on a server sees the entries whose keys have its start. -/
theorem sees_keyValueMedium (start : String) :
    (keyValueMedium (.text start)).SeesOnly (Fields.within (hasStart start)) where
  find texts id := by
    simp only [keyValueMedium, readKey, TextMap.get_within (hasStart_storeKey start id)]
  list texts := by
    simp only [keyValueMedium, storeKeys_text, names_within_hasStart]
    refine congrArg Except.ok (List.filterMap_congr fun key hKey => ?_)
    rw [readableRecord?, readableRecord?, TextMap.get_within (List.mem_filter.1 hKey).2]
  save texts task := by
    simp only [keyValueMedium]
    cases task.write with
    | error cause => rfl
    | ok text =>
      exact congrArg Except.ok (Fields.within_put (hasStart_storeKey start task.id) texts _).symm
  remove texts id := by
    simp only [keyValueMedium, TextMap.delete, TextMap.get_within (hasStart_storeKey start id)]
    rw [← Fields.within_erase]
    rfl
  clear texts := by
    simp only [keyValueMedium, storeKeys_text, names_within_hasStart]
    exact congrArg Except.ok (within_foldl_erase _ _ _).symm

/-- A store on a server leaves alone the entries whose keys have a start that is apart from its own. -/
theorem keyValueMedium_preserves {start other : String} (h : AreApart start other) (texts : TextMap)
    (request : Request) (now : Moment) (issuer : Issuer) :
    Fields.within (hasStart other)
        ((keyValueMedium (.text start)).perform texts request now issuer).state =
      Fields.within (hasStart other) texts := by
  have hOwn : ∀ id, hasStart other (storeKey (.text start) id) = false := fun id =>
    h.not_hasStart (hasStart_storeKey start id)
  refine Medium.perform_preserves (fun task next hSave => ?_) (fun id result hRemove => ?_)
    fun _ next hClear => ?_
  · simp only [keyValueMedium] at hSave
    split at hSave
    · cases hSave
    · obtain rfl := Except.ok.inj hSave
      exact Fields.within_put_of_not (hOwn task.id) texts _
  · obtain rfl := Except.ok.inj hRemove
    exact Fields.within_erase_of_not (hOwn id) texts
  · simp only [keyValueMedium, storeKeys_text] at hClear
    obtain rfl := Except.ok.inj hClear
    exact within_foldl_erase_of_not
      (fun key hKey => h.not_hasStart (List.mem_filter.1 hKey).2) texts

end texts

/-! ## Rows -/

namespace Table

variable {test : String → Bool} {key : String} {row : Row}

/-- The rows whose keys satisfy a test. -/
def within (test : String → Bool) (table : Table) : Table :=
  List.filter (fun row => test row.key) table

/-- Under a key that satisfies a test, leaving out others changes no row. -/
theorem find?_within (h : test key = true) (table : Table) :
    Table.find? (within test table) key = Table.find? table key := by
  rw [find?, find?, within, List.find?_filter]
  congr 1
  funext row
  by_cases hKey : row.key = key <;> simp [hKey, h]

/-- Writing over rows writes over them among the rows that satisfy a test. -/
theorem within_map_overwritten (test : String → Bool) (table : Table) (row : Row) :
    within test (table.map fun old => if old.key = row.key then old.overwritten row else old) =
      (within test table).map fun old => if old.key = row.key then old.overwritten row else old := by
  rw [within, within, List.filter_map]
  congr 1
  refine List.filter_congr fun old _ => ?_
  rw [Function.comp_apply]
  split
  · next hKey => exact congrArg test hKey.symm
  · rfl

/-- A row whose key satisfies a test is put among those that do. -/
theorem within_put (h : test row.key = true) (table : Table) :
    within test (Table.put table row) = Table.put (within test table) row := by
  rw [Table.put, Table.put, find?_within h]
  split
  · exact within_map_overwritten test table row
  · rw [within, within, List.filter_append, List.filter_singleton, h]
    rfl

/-- A row whose key does not satisfy a test is not put among those that do. -/
theorem within_put_of_not (h : test row.key = false) (table : Table) :
    within test (Table.put table row) = within test table := by
  rw [Table.put]
  split
  · rw [within_map_overwritten, within]
    refine (List.map_congr_left fun old hOld => ?_).trans (List.map_id _)
    have hKey : old.key ≠ row.key := by
      intro hKey
      have hTest := (List.mem_filter.1 hOld).2
      rw [hKey, h] at hTest
      cases hTest
    rw [if_neg hKey]
    rfl
  · rw [within, within, List.filter_append, List.filter_singleton, h]
    exact List.append_nil _

/-- Deleting a row deletes it among the rows that satisfy a test. -/
theorem within_delete (test : String → Bool) (table : Table) (key : String) :
    within test (Table.delete table key).2 = (Table.delete (within test table) key).2 := by
  rw [within, Table.delete, Table.delete, within, List.filter_filter, List.filter_filter]
  exact List.filter_congr fun _ _ => Bool.and_comm _ _

/-- Deleting a row that does not satisfy a test does nothing to those that do. -/
theorem within_delete_of_not (h : test key = false) (table : Table) :
    within test (Table.delete table key).2 = within test table := by
  rw [within, within, Table.delete, List.filter_filter]
  refine List.filter_congr fun row _ => ?_
  by_cases hKey : row.key = key
  · rw [hKey, h, Bool.false_and]
  · rw [decide_eq_true hKey, Bool.and_true]

end Table

section rows

variable {start other : String} {test : String → Bool}

/-- A search for a start finds the rows whose keys match its pattern. -/
theorem under_eq_ok (hStart : isLongLikePattern start = false) (table : Table) :
    Table.under table start = .ok (Table.within (hasLikePrefix start) table) := by
  rw [Table.under, checkPattern_eq_ok hStart]
  rfl

/-- A clearance by a start leaves the rows whose keys do not match its pattern. -/
theorem deleteUnder_eq_ok (hStart : isLongLikePattern start = false) (table : Table) :
    Table.deleteUnder table start = .ok (Table.within (fun key => !hasLikePrefix start key) table) := by
  rw [Table.deleteUnder, checkPattern_eq_ok hStart]
  rfl

/-- The keys of a store match the pattern of its start. -/
theorem hasLikePrefix_storeKey (start : String) (id : Value) :
    hasLikePrefix start (storeKey (.text start) id) = true :=
  hasLikePrefix_append start id.plain

/-- The row of a record has its key. -/
theorem key_taskRow {keyPrefix : Value} {task : Task} {row : Row}
    (h : taskRow keyPrefix task = .ok row) : row.key = storeKey keyPrefix task.id := by
  rw [taskRow] at h
  split at h
  · cases h
  · exact (Row.ofColumns_eq_ok (mapError_eq_ok.1 h)).1

/-- A store on a table sees the rows that its search finds. -/
theorem sees_tableMedium (hStart : isLongLikePattern start = false) :
    (tableMedium (.text start)).SeesOnly (Table.within (hasLikePrefix start)) where
  find table id := by
    simp only [tableMedium, Table.find?_within (hasLikePrefix_storeKey start id)]
  list table := by
    simp only [tableMedium, searchedStart_text, ok_bind, under_eq_ok hStart, Table.within,
      List.filter_filter, Bool.and_self]
  save table task := by
    simp only [tableMedium]
    cases hRow : taskRow (.text start) task with
    | error cause => rfl
    | ok row =>
      refine congrArg Except.ok (Table.within_put ?_ table).symm
      rw [key_taskRow hRow]
      exact hasLikePrefix_storeKey start task.id
  remove table id := by
    refine congrArg Except.ok (Prod.ext ?_ (Table.within_delete _ table _).symm)
    simp only [Table.delete, Table.find?_within (hasLikePrefix_storeKey start id)]
  clear table := by
    simp only [tableMedium, searchedStart_text, ok_bind, deleteUnder_eq_ok hStart]
    refine congrArg Except.ok ?_
    rw [Table.within, Table.within, Table.within, Table.within, List.filter_filter,
      List.filter_filter]
    exact List.filter_congr fun _ _ => Bool.and_comm _ _

/-- A store on a table leaves alone the rows whose keys satisfy a test, if its own keys do not, nor
those that it finds when it clears. -/
theorem tableMedium_preserves (hOwn : ∀ id, test (storeKey (.text start) id) = false)
    {request : Request}
    (hFound : request = .clear → ∀ key, hasLikePrefix start key = true → test key = false)
    (table : Table) (now : Moment) (issuer : Issuer) :
    Table.within test ((tableMedium (.text start)).perform table request now issuer).state =
      Table.within test table := by
  refine Medium.perform_preserves (fun task next hSave => ?_) (fun id result hRemove => ?_)
    fun hRequest next hClear => ?_
  · obtain ⟨row, hRow, rfl⟩ := map_eq_ok.1 hSave
    refine Table.within_put_of_not ?_ table
    rw [key_taskRow hRow]
    exact hOwn task.id
  · obtain rfl := Except.ok.inj hRemove
    exact Table.within_delete_of_not (hOwn id) table
  · simp only [tableMedium, searchedStart_text, ok_bind, Table.deleteUnder] at hClear
    obtain ⟨_, -, rfl⟩ := map_eq_ok.1 (mapError_eq_ok.1 hClear)
    rw [Table.within, Table.within, List.filter_filter]
    refine List.filter_congr fun row _ => ?_
    cases hLike : hasLikePrefix start row.key with
    | false => exact Bool.and_true _
    | true => rw [hFound hRequest row.key hLike, Bool.false_and]

end rows

end Crontab
